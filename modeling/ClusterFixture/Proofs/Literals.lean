/-
Values in statements are read back as they were given.

A statement is put together from parts: texts of its own, values as literals, and numbers. It is
read part by part, because what has been begun of a token at the end of a part is known: nothing
behind a text that ends with a space or a bracket, a whole value behind a literal, a whole number
behind a number. So the texts of a statement decide its tokens up to the values and numbers between
them, whatever these are.
-/

import ClusterFixture.Sql.Statement
import ClusterFixture.Sql.Token

set_option autoImplicit false
set_option maxRecDepth 4096

namespace ClusterFixture.Sql

open String (toList_ofList)

/-! ## Reading in parts -/

/-- A character that completes no token is only remembered. -/
theorem scan_cons {b b' : Begun} {c : Char} (h : step b c = some ([], b')) (rest : List Char) :
    scan b (c :: rest) = scan b' rest := by
  simp only [scan, h, bind, Option.bind_some, pure, List.nil_append]
  cases scan b' rest <;> rfl

theorem scan_append {b b' : Begun} {front : List Char} {ts : List Token}
    (h : scan b front = some (ts, b')) (rest : List Char) :
    scan b (front ++ rest) = (scan b' rest).map fun (us, b'') => (ts ++ us, b'') := by
  induction front generalizing b ts with
  | nil =>
    obtain ⟨rfl, rfl⟩ := Prod.mk.inj (Option.some.inj h)
    simp
  | cons c more ih =>
    simp only [scan, bind, Option.bind_eq_some_iff, pure, Option.some.injEq, Prod.exists,
      Prod.mk.injEq] at h
    obtain ⟨done, b₁, hstep, us, b₂, hmore, rfl, rfl⟩ := h
    rw [List.cons_append, scan, hstep]
    simp only [bind, Option.bind_some, pure, ih hmore]
    cases scan b₂ rest with
    | none => rfl
    | some last => simp [List.append_assoc]

/-- What is read behind a text is put behind its tokens. -/
theorem readFrom_append {b b' : Begun} {front : List Char} {ts : List Token}
    (h : scan b front = some (ts, b')) (rest : List Char) :
    readFrom b (front ++ rest) = (readFrom b' rest).map (ts ++ ·) := by
  rw [readFrom, readFrom, scan_append h]
  cases scan b' rest with
  | none => rfl
  | some last =>
    simp only [bind, Option.map_some, Option.bind_some, pure]
    cases finish last.2 with
    | none => rfl
    | some us => simp [List.append_assoc]

/-- A text that completes no token is only remembered. -/
theorem scan_append_nil {b b' : Begun} {front : List Char} (h : scan b front = some ([], b'))
    (rest : List Char) : scan b (front ++ rest) = scan b' rest := by
  rw [scan_append h]
  cases scan b' rest <;> rfl

theorem readFrom_append_nil {b b' : Begun} {front : List Char} (h : scan b front = some ([], b'))
    (rest : List Char) : readFrom b (front ++ rest) = readFrom b' rest := by
  rw [readFrom, readFrom, scan_append_nil h]

/-- A token in front of all others is in front of what is read. -/
theorem readFrom_of_scan {b : Begun} {t : Token} {cs : List Char}
    (h : scan b cs = (scan .nothing cs).map fun (ts, b') => (t :: ts, b')) :
    readFrom b cs = (readFrom .nothing cs).map (t :: ·) := by
  rw [readFrom, readFrom, h]
  cases scan .nothing cs with
  | none => rfl
  | some last =>
    simp only [bind, Option.map_some, Option.bind_some, pure]
    cases finish last.2 <;> rfl

/-! ## A value as a literal -/

/-- Inside a value without escapes, every character of a text is read once its quotes are
doubled. -/
theorem scan_quoted (cs chars : List Char) :
    scan (.value false chars) (doubling '\'' cs) =
      some ([], .value false (cs.reverse ++ chars)) := by
  induction cs generalizing chars with
  | nil => rfl
  | cons c rest ih =>
    rw [doubling, List.reverse_cons, List.append_assoc, List.singleton_append]
    by_cases hquote : c = '\''
    · subst hquote
      have hfirst : step (.value false chars) '\'' = some ([], .valueQuote false chars) := rfl
      have hsecond : step (.valueQuote false chars) '\'' =
          some ([], .value false ('\'' :: chars)) := rfl
      rw [if_pos rfl, scan_cons hfirst, scan_cons hsecond, ih]
    · have hstep : step (.value false chars) c = some ([], .value false (c :: chars)) := by
        simp [step, hquote]
      rw [if_neg hquote, scan_cons hstep, ih]

/-- Inside a value with escapes, the same holds once its backslashes are doubled too. -/
theorem scan_escaped (cs chars : List Char) :
    scan (.value true chars) (doubling '\\' (doubling '\'' cs)) =
      some ([], .value true (cs.reverse ++ chars)) := by
  induction cs generalizing chars with
  | nil => rfl
  | cons c rest ih =>
    rw [doubling, List.reverse_cons, List.append_assoc, List.singleton_append]
    by_cases hquote : c = '\''
    · subst hquote
      have hfirst : step (.value true chars) '\'' = some ([], .valueQuote true chars) := rfl
      have hsecond : step (.valueQuote true chars) '\'' =
          some ([], .value true ('\'' :: chars)) := rfl
      have hplain : ('\'' : Char) ≠ '\\' := by decide
      rw [if_pos rfl, doubling, if_neg hplain, doubling, if_neg hplain, scan_cons hfirst,
        scan_cons hsecond, ih]
    · rw [if_neg hquote, doubling]
      by_cases hbackslash : c = '\\'
      · subst hbackslash
        have hfirst : step (.value true chars) '\\' = some ([], .backslash chars) := rfl
        have hsecond : step (.backslash chars) '\\' =
            some ([], .value true ('\\' :: chars)) := rfl
        rw [if_pos rfl, scan_cons hfirst, scan_cons hsecond, ih]
      · have hstep : step (.value true chars) c = some ([], .value true (c :: chars)) := by
          simp [step, hquote, hbackslash]
        rw [if_neg hbackslash, scan_cons hstep, ih]

/-- A literal is one value, whatever it holds, and only what follows can tell that it has ended. -/
theorem scan_literal (s : String) :
    scan .nothing (literal s).toList =
      some ([], .valueQuote (s.toList.contains '\\') s.toList.reverse) := by
  rw [literal, String.toList_ofList, literalChars]
  split
  · next hbackslash =>
    have hmark : step .nothing 'E' = some ([], .word ['E']) := by decide
    have hopen : step (.word ['E']) '\'' = some ([], .value true []) := by decide
    rw [List.cons_append, List.cons_append, scan_cons hmark, scan_cons hopen,
      scan_append_nil (scan_escaped _ _), List.append_nil, hbackslash]
    rfl
  · next hplain =>
    have hopen : step .nothing '\'' = some ([], .value false []) := by decide
    rw [Bool.not_eq_true] at hplain
    rw [List.cons_append, scan_cons hopen, scan_append_nil (scan_quoted _ _), List.append_nil,
      hplain]
    rfl

/-- Two values with one literal are one value. -/
theorem literal_injective {s t : String} (h : literal s = literal t) : s = t := by
  have hscan := scan_literal s
  rw [h, scan_literal t] at hscan
  have hread := Option.some.inj hscan
  simp only [Prod.mk.injEq, true_and, Begun.valueQuote.injEq] at hread
  exact String.toList_inj.mp (List.reverse_inj.mp hread.2.symm)

/-- Statements that differ in nothing but a value are the same only if the value is. -/
theorem render_value_inj (front back : List Piece) {s t : String} :
    render (front ++ .value s :: back) = render (front ++ .value t :: back) ↔ s = t := by
  refine ⟨fun h => ?_, fun h => by rw [h]⟩
  induction front with
  | nil => exact literal_injective ((String.append_left_inj _).mp h)
  | cons p rest ih => exact ih ((String.append_right_inj _).mp h)

/-! ## A number -/

theorem scan_digits (cs : List Char) (n : Nat) (hdigits : ∀ c ∈ cs, c.isDigit = true) :
    scan (.number n) cs = some ([], .number (Nat.ofDigitChars 10 cs n)) := by
  induction cs generalizing n with
  | nil => rfl
  | cons c rest ih =>
    have hstep : step (.number n) c =
        some ([], .number (10 * n + (c.toNat - '0'.toNat))) := by
      simp [step, hdigits c (by simp)]
    rw [scan_cons hstep, ih _ fun d hd => hdigits d (by simp [hd]), Nat.ofDigitChars_cons]

theorem start_of_isDigit {c : Char} (h : c.isDigit = true) :
    start c = some ([], .number (c.toNat - '0'.toNat)) := by
  have hdigits : ∀ k < 10, start (Char.ofNat (48 + k)) = some ([], .number k) := by decide
  have hbounds : 48 ≤ c.toNat ∧ c.toNat ≤ 57 := by
    simp only [Char.isDigit, Bool.and_eq_true, decide_eq_true_eq, ge_iff_le] at h
    exact h
  have hstart := hdigits (c.toNat - 48) (by omega)
  rw [Nat.add_sub_cancel' hbounds.1, Char.ofNat_toNat] at hstart
  exact hstart

/-- A number in decimal is one number. -/
theorem scan_repr (n : Nat) : scan .nothing n.repr.toList = some ([], .number n) := by
  have hdigits : ∀ c ∈ Nat.toDigits 10 n, c.isDigit = true :=
    fun c hc => Nat.isDigit_of_mem_toDigits (by omega) (by omega) hc
  have hvalue : Nat.ofDigitChars 10 (Nat.toDigits 10 n) 0 = n := Nat.ofDigitChars_ten_toDigits
  rw [Nat.toList_repr]
  cases hchars : Nat.toDigits 10 n with
  | nil => exact absurd hchars Nat.toDigits_ne_nil
  | cons c rest =>
    rw [hchars] at hdigits hvalue
    rw [Nat.ofDigitChars_cons] at hvalue
    have hstep : step .nothing c = some ([], .number (10 * 0 + (c.toNat - '0'.toNat))) := by
      rw [Nat.mul_zero, Nat.zero_add]
      exact start_of_isDigit (hdigits c (by simp))
    rw [scan_cons hstep, scan_digits rest _ fun d hd => hdigits d (by simp [hd]), hvalue]

/-! ## What follows a value or a number -/

/-- Whether a text shows that the value in front of it has ended: its first character that is no
space is no quote. -/
def endsValue (cs : List Char) : Bool := (cs.dropWhile isSpace).head?.any (· ≠ '\'')

/-- Whether a text shows that the number in front of it has ended. -/
def endsNumber (cs : List Char) : Bool := cs.head?.any fun c => !continuesWord c && c ≠ '.'

/-- Where a character ends a token, it and all behind it are read as if the token were not there. -/
theorem scan_of_startBehind {b : Begun} {t : Token} {c : Char} (h : step b c = startBehind t c)
    (rest : List Char) :
    scan b (c :: rest) = (scan .nothing (c :: rest)).map fun (ts, b') => (t :: ts, b') := by
  have hnothing : step .nothing c = start c := rfl
  rw [scan, scan, h, startBehind, hnothing]
  cases start c with
  | none => rfl
  | some begun =>
    simp only [bind, Option.map_some, Option.bind_some, pure]
    cases scan begun.2 rest <;> rfl

theorem scan_valueSpace {cs : List Char} (h : endsValue cs = true) (escapes broken : Bool)
    (chars : List Char) :
    scan (.valueSpace escapes broken chars) cs =
      (scan .nothing cs).map fun (ts, b) => (.value (unreversed chars) :: ts, b) := by
  induction cs generalizing broken with
  | nil => cases h
  | cons c rest ih =>
    by_cases hspace : isSpace c = true
    · have hrest : endsValue rest = true := by simpa [endsValue, hspace] using h
      have hstep : step (.valueSpace escapes broken chars) c =
          some ([], .valueSpace escapes (broken || endsLine c) chars) := by
        simp [step, hspace]
      have hnothing : step .nothing c = some ([], .nothing) := by simp [step, start, hspace]
      rw [scan_cons hstep, scan_cons hnothing]
      exact ih hrest _
    · have hquote : c ≠ '\'' := by simpa [endsValue, hspace] using h
      apply scan_of_startBehind
      simp [step, hspace, hquote]

/-- A text behind a value that shows its end is read as if the value were not there. -/
theorem scan_valueQuote {cs : List Char} (h : endsValue cs = true) (escapes : Bool)
    (chars : List Char) :
    scan (.valueQuote escapes chars) cs =
      (scan .nothing cs).map fun (ts, b) => (.value (unreversed chars) :: ts, b) := by
  cases cs with
  | nil => cases h
  | cons c rest =>
    by_cases hspace : isSpace c = true
    · have hrest : endsValue rest = true := by simpa [endsValue, hspace] using h
      have hquote : c ≠ '\'' := by rintro rfl; exact absurd hspace (by decide)
      have hstep : step (.valueQuote escapes chars) c =
          some ([], .valueSpace escapes (endsLine c) chars) := by
        simp [step, hspace, hquote]
      have hnothing : step .nothing c = some ([], .nothing) := by simp [step, start, hspace]
      rw [scan_cons hstep, scan_cons hnothing]
      exact scan_valueSpace hrest _ _ _
    · have hquote : c ≠ '\'' := by simpa [endsValue, hspace] using h
      apply scan_of_startBehind
      simp [step, hspace, hquote]

/-- A text behind a number that shows its end is read as if the number were not there. -/
theorem scan_number {cs : List Char} (h : endsNumber cs = true) (n : Nat) :
    scan (.number n) cs = (scan .nothing cs).map fun (ts, b) => (.number n :: ts, b) := by
  cases cs with
  | nil => cases h
  | cons c rest =>
    simp only [endsNumber, List.head?_cons, Option.any_some, Bool.and_eq_true,
      Bool.not_eq_true', decide_eq_true_eq] at h
    obtain ⟨hword, hpoint⟩ := h
    have hdigit : c.isDigit = false := by
      simp only [continuesWord, Bool.or_eq_false_iff] at hword
      exact hword.1.2
    apply scan_of_startBehind
    simp [step, hword, hpoint, hdigit]

/-! ## Statements in parts -/

/-- Tokens as they are spelled with blanks between them, in small letters and with quotes around
values. -/
def spelledChars (cs : List Char) : List Token :=
  (Text.wordsFrom [] cs).map fun word =>
    if word.head?.any startsWord then .word (String.ofList word)
    else if word.head?.any Char.isDigit then .number (Nat.ofDigitChars 10 word 0)
    else if word.head? = some '\'' then .value (String.ofList word.tail.dropLast)
    else .symbol (String.ofList word)

/-- Tokens as they are spelled with blanks between them. -/
def spelled (s : String) : List Token := spelledChars s.toList

/-- Whether the parts behind a value show that it has ended. -/
def endsValueBehind : List Piece → Bool
  | [] => true
  | .text s :: _ => endsValue s.toList
  | _ => false

/-- Whether the parts behind a number show that it has ended. -/
def endsNumberBehind : List Piece → Bool
  | [] => true
  | .text s :: _ => endsNumber s.toList
  | _ => false

/-- The tokens that parts of a statement are read as: those that each text is spelled as, a value
for a value and a number for a number. The characters of a text stand beside it, so that reading it
is reading them. -/
inductive Reads : List Piece → List Token → Prop where
  | none : Reads [] []
  | last {s t : String} {cs ds : List Char} : s.toList = cs → t.toList = ds →
      readFrom .nothing cs = some (spelledChars ds) → Reads [.text s] (spelled t)
  | text {s t : String} {cs ds : List Char} {ts : List Token} {rest : List Piece} :
      s.toList = cs → t.toList = ds →
      scan .nothing cs = some (spelledChars ds, .nothing) → Reads rest ts →
      Reads (.text s :: rest) (spelled t ++ ts)
  | value {s : String} {ts : List Token} {rest : List Piece} :
      endsValueBehind rest = true → Reads rest ts →
      Reads (.value s :: rest) (.value s :: ts)
  | number {n : Nat} {ts : List Token} {rest : List Piece} :
      endsNumberBehind rest = true → Reads rest ts →
      Reads (.number n :: rest) (.number n :: ts)

theorem toList_render_cons (p : Piece) (rest : List Piece) :
    (render (p :: rest)).toList = p.render.toList ++ (render rest).toList :=
  String.toList_append

theorem endsValue_append {cs : List Char} (h : endsValue cs = true) (rest : List Char) :
    endsValue (cs ++ rest) = true := by
  rw [endsValue, List.dropWhile_append]
  cases hdrop : cs.dropWhile isSpace with
  | nil => simp [endsValue, hdrop] at h
  | cons c more => simpa [endsValue, hdrop] using h

theorem endsNumber_append {cs : List Char} (h : endsNumber cs = true) (rest : List Char) :
    endsNumber (cs ++ rest) = true := by
  cases cs with
  | nil => cases h
  | cons c more => exact h

/-- What has been begun with a value is that value, with all that is read behind it. -/
theorem readFrom_valueQuote {ps : List Piece} (h : endsValueBehind ps = true) (escapes : Bool)
    (chars : List Char) :
    readFrom (.valueQuote escapes chars) (render ps).toList =
      (tokens? (render ps)).map (.value (unreversed chars) :: ·) := by
  match ps, h with
  | [], _ => rfl
  | .text s :: rest, h =>
    rw [toList_render_cons, tokens?, toList_render_cons]
    exact readFrom_of_scan (scan_valueQuote (endsValue_append h _) escapes chars)

/-- What has been begun with a number is that number, with all that is read behind it. -/
theorem readFrom_number {ps : List Piece} (h : endsNumberBehind ps = true) (n : Nat) :
    readFrom (.number n) (render ps).toList = (tokens? (render ps)).map (.number n :: ·) := by
  match ps, h with
  | [], _ => rfl
  | .text s :: rest, h =>
    rw [toList_render_cons, tokens?, toList_render_cons]
    exact readFrom_of_scan (scan_number (endsNumber_append h _) n)

/-- A statement is read part by part. -/
theorem tokens?_render {ps : List Piece} {ts : List Token} (h : Reads ps ts) :
    tokens? (render ps) = some ts := by
  induction h with
  | none => rfl
  | @last s t cs ds hs ht hread =>
    have hwhole : render [.text s] = s := String.append_empty
    rw [hwhole, tokens?, hs, hread, spelled, ht]
  | @text s t cs ds ts rest hs ht hscan _ ih =>
    rw [tokens?, toList_render_cons]
    simp only [Piece.render]
    rw [tokens?] at ih
    rw [hs, readFrom_append hscan, ih, spelled, ht, Option.map_some]
  | @value s ts rest hend _ ih =>
    have hself : unreversed s.toList.reverse = s := by
      rw [unreversed, List.reverse_reverse, String.ofList_toList]
    rw [tokens?, toList_render_cons]
    simp only [Piece.render]
    rw [readFrom_append_nil (scan_literal s), readFrom_valueQuote hend, ih, hself,
      Option.map_some]
  | @number n ts rest hend _ ih =>
    rw [tokens?, toList_render_cons]
    simp only [Piece.render]
    rw [readFrom_append_nil (scan_repr n), readFrom_number hend, ih, Option.map_some]

/-! ## The statements that take values -/

/-- The statements that compare values with columns of the catalog, take them for relations or for
paths of files. -/
inductive Lookup where
  | schemaExists (schema : String)
  | tableStorage (table : String)
  | languageCount (language : String)
  | constraintCount (constraint : String)
  | partitionTables (table : String) (level : Nat)
  | partitionNames (schema table : String) (level position : Nat)
  | directoriesOfHost (host : String)
  | tableOid (schema table : String)
  | relationCount (relation : String)
  | indexRows (table : String)
  | columnOrder (table : String)
  | segmentRowCounts (table : String)
  | relationStorage (table : String)
  | tupleTableName (table : String)
  | estimatedRows (relation : String)
  | copyDistributionPolicy (path : String)

namespace Lookup

/-- The text of a statement. -/
def text : Lookup → String
  | .schemaExists schema => Statement.schemaExists schema
  | .tableStorage table => Statement.tableStorage table
  | .languageCount language => Statement.languageCount language
  | .constraintCount constraint => Statement.constraintCount constraint
  | .partitionTables table level => Statement.partitionTables table level
  | .partitionNames schema table level position =>
    Statement.partitionNames schema table level position
  | .directoriesOfHost host => Statement.directoriesOfHost host
  | .tableOid schema table => Statement.tableOid schema table
  | .relationCount relation => Statement.relationCount relation
  | .indexRows table => Statement.indexRows table
  | .columnOrder table => Statement.columnOrder table
  | .segmentRowCounts table => Statement.segmentRowCounts table
  | .relationStorage table => Statement.relationStorage table
  | .tupleTableName table => Statement.tupleTableName table
  | .estimatedRows relation => Statement.estimatedRows relation
  | .copyDistributionPolicy path => Statement.copyDistributionPolicy path

/-- The tokens that a statement means. -/
def tokens : Lookup → List Token
  | .schemaExists schema => spelled "select * from pg_namespace where nspname =" ++ [.value schema]
  | .tableStorage table =>
    spelled ("select oid :: regclass , relkind , relstorage , reloptions from pg_class "
      ++ "where oid =")
      ++ .value table :: spelled ":: regclass"
  | .languageCount language =>
    spelled "select count ( * ) from pg_language where lanname =" ++ [.value language]
  | .constraintCount constraint =>
    spelled "select count ( * ) from pg_constraint where conname =" ++ [.value constraint]
  | .partitionTables table level =>
    spelled "select partitiontablename from pg_partitions where tablename ="
      ++ .value table :: (spelled "and partitionlevel =" ++ [.number level])
  | .partitionNames schema table level position =>
    spelled ("select partitionschemaname || '.' || partitiontablename from pg_partitions "
      ++ "where schemaname =")
      ++ .value schema :: (spelled "and tablename ="
        ++ .value table :: (spelled "and partitionlevel ="
          ++ .number level :: (spelled "and partitionposition =" ++ [.number position])))
  | .directoriesOfHost host =>
    spelled ("select f . fselocation from pg_filespace_entry f inner join "
      ++ "gp_segment_configuration g on f . fsedbid = g . dbid and g . role = 'p' "
      ++ "and g . hostname =")
      ++ [.value host]
  | .tableOid schema table =>
    spelled ("select c . oid from pg_class c , pg_namespace n where c . relnamespace = n . oid "
      ++ "and c . relname =")
      ++ .value table :: (spelled "and n . nspname =" ++ [.value schema])
  | .relationCount relation =>
    spelled "select count ( * ) from pg_class where relname =" ++ [.value relation]
  | .indexRows table =>
    spelled "select count ( indexrelid :: regclass ) from pg_index , pg_class where indrelid ="
      ++ .value table :: spelled ":: regclass group by indexrelid"
  | .columnOrder table =>
    spelled ("select string_agg ( a , ',' ) from ( select generate_series ( 1 , c . relnatts + 1 ) "
      ++ ":: text as a from pg_class as c inner join pg_namespace as n on c . relnamespace "
      ++ "= n . oid where ( n . nspname || '.' || c . relname =")
      ++ .value (Text.trim table) :: (spelled ") or c . relname ="
        ++ .value (Text.trim table) :: spelled ") as q")
  | .segmentRowCounts table =>
    spelled "select gp_segment_id , count ( * ) from gp_dist_random ("
      ++ .value table :: spelled ") group by gp_segment_id"
  | .relationStorage table =>
    spelled "select oid :: regclass , relstorage from pg_class where oid ="
      ++ .value table :: spelled ":: regclass"
  | .tupleTableName table =>
    spelled ("select relname from pg_class where oid in ( select segrelid from pg_appendonly "
      ++ "where relid in ( select oid from pg_class where relname =")
      ++ .value table :: spelled ") )"
  | .estimatedRows relation =>
    spelled "select reltuples from pg_class where relname =" ++ [.value relation]
  | .copyDistributionPolicy path =>
    spelled ("copy ( select c . relname as tablename , p . attrnums as distribution_policy from "
      ++ "pg_class c inner join gp_distribution_policy p on ( c . relfilenode = p . localoid ) "
      ++ "and c . relstorage != 'x' order by c . relname ) to")
      ++ [.value path]

theorem toList_join {s t : String} {cs ds : List Char} (hs : s.toList = cs) (ht : t.toList = ds) :
    (s ++ t).toList = cs ++ ds := by
  rw [String.toList_append, hs, ht]

/-- Whatever the values are, a statement has its own tokens, and each value is one token that means
this very value. -/
theorem lookup_reads_back (q : Lookup) : tokens? q.text = some q.tokens := by
  -- Only the texts of a statement are computed with; no case looks into a value.
  cases q with
  | schemaExists _ | languageCount _ | constraintCount _ | relationCount _ | estimatedRows _ =>
    refine tokens?_render (.text toList_ofList toList_ofList ?_ (.value rfl .none))
    decide +kernel
  | segmentRowCounts _ | relationStorage _ =>
    refine tokens?_render (.text toList_ofList toList_ofList ?_ (.value rfl
      (.last toList_ofList toList_ofList ?_)))
    · decide +kernel
    · decide +kernel
  | tableStorage table =>
    refine tokens?_render (.text toList_ofList (toList_join toList_ofList toList_ofList) ?_
      (.value rfl (.last toList_ofList toList_ofList ?_)))
    · decide +kernel
    · decide +kernel
  | partitionTables table level =>
    refine tokens?_render (.text toList_ofList toList_ofList ?_ (.value rfl
      (.text toList_ofList toList_ofList ?_ (.number rfl .none))))
    · decide +kernel
    · decide +kernel
  | partitionNames schema table level position =>
    refine tokens?_render (.text (toList_join toList_ofList toList_ofList)
      (toList_join toList_ofList toList_ofList) ?_ (.value rfl
        (.text toList_ofList toList_ofList ?_ (.value rfl
          (.text toList_ofList toList_ofList ?_ (.number rfl
            (.text toList_ofList toList_ofList ?_ (.number rfl .none))))))))
    · decide +kernel
    · decide +kernel
    · decide +kernel
    · decide +kernel
  | directoriesOfHost host =>
    refine tokens?_render (.text (toList_join toList_ofList toList_ofList)
      (toList_join (toList_join toList_ofList toList_ofList) toList_ofList) ?_ (.value rfl .none))
    decide +kernel
  | tableOid schema table =>
    refine tokens?_render (.text (toList_join toList_ofList toList_ofList)
      (toList_join toList_ofList toList_ofList) ?_ (.value rfl
        (.text toList_ofList toList_ofList ?_ (.value rfl .none))))
    · decide +kernel
    · decide +kernel
  | indexRows table =>
    refine tokens?_render (.text (toList_join toList_ofList toList_ofList) toList_ofList ?_
      (.value rfl (.last toList_ofList toList_ofList ?_)))
    · decide +kernel
    · decide +kernel
  | columnOrder table =>
    refine tokens?_render (.text
      (toList_join (toList_join (toList_join toList_ofList toList_ofList) toList_ofList)
        toList_ofList)
      (toList_join (toList_join toList_ofList toList_ofList) toList_ofList) ?_ (.value rfl
        (.text toList_ofList toList_ofList ?_ (.value rfl
          (.last toList_ofList toList_ofList ?_)))))
    · decide +kernel
    · decide +kernel
    · decide +kernel
  | tupleTableName table =>
    refine tokens?_render (.text (toList_join toList_ofList toList_ofList)
      (toList_join toList_ofList toList_ofList) ?_ (.value rfl
        (.last toList_ofList toList_ofList ?_)))
    · decide +kernel
    · decide +kernel
  | copyDistributionPolicy path =>
    refine tokens?_render (.text
      (toList_join (toList_join toList_ofList toList_ofList) toList_ofList)
      (toList_join (toList_join toList_ofList toList_ofList) toList_ofList) ?_
      (.value rfl .none))
    decide +kernel

/-- A value that ends in a backslash and holds a quote. -/
example : tokens? (Statement.schemaExists "it's \\") =
    some (spelled "select * from pg_namespace where nspname =" ++ [.value "it's \\"]) := by
  decide +kernel

end Lookup

end ClusterFixture.Sql
