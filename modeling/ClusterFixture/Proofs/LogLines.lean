/-
Log lines with a scenario.

A line that takes the scenario is the same object with one member more, as one line. Whatever the
scenario holds, it is escaped: no control character stands in what is written, so the only line end
is the one that the line had before. What is written has a scenario, so it never takes another one.
-/

import ClusterFixture.Proofs.JsonReading
import ClusterFixture.Proofs.Tagging

set_option autoImplicit false

namespace ClusterFixture.Json

open ClusterFixture.Number
open Binary64 (IsFinite)

/-! ## No control characters -/

theorem not_control_of_isNumeralChar {c : Char} (h : isNumeralChar c = true) : 0x20 ≤ c.toNat := by
  simp only [isNumeralChar, Bool.or_eq_true, decide_eq_true_eq] at h
  rcases h with ((((hdigit | rfl) | rfl) | rfl) | rfl) | rfl
  · simp only [Char.isDigit, Bool.and_eq_true, decide_eq_true_eq] at hdigit
    have hlow : 48 ≤ c.toNat := hdigit.1
    omega
  all_goals decide

theorem not_control_of_all {cs : List Char} (h : (cs.all fun c => 0x20 ≤ c.toNat) = true) :
    ∀ c ∈ cs, 0x20 ≤ c.toNat :=
  fun c hc => of_decide_eq_true (List.all_eq_true.mp h c hc)

/-- What stands for a character inside quotes has none. -/
theorem not_control_escapedChar (c : Char) : ∀ d ∈ escapedChar c, 0x20 ≤ d.toNat := by
  have hcode : ∀ n < 0x20, (['\\', 'u', '0', '0', hexDigit (n / 16), hexDigit (n % 16)].all
      fun d => 0x20 ≤ d.toNat) = true := by
    decide
  unfold escapedChar
  split_ifs with h1 h2 h3 h4 h5 h6 h7 h8
  · exact not_control_of_all rfl
  · exact not_control_of_all rfl
  · exact not_control_of_all rfl
  · exact not_control_of_all rfl
  · exact not_control_of_all rfl
  · exact not_control_of_all rfl
  · exact not_control_of_all rfl
  · exact not_control_of_all (hcode c.toNat h8)
  · exact List.forall_mem_singleton.mpr (not_lt.mp h8)

theorem not_control_stringChars (cs : List Char) : ∀ c ∈ stringChars cs, 0x20 ≤ c.toNat := by
  intro c hc
  simp only [stringChars, List.cons_append, List.mem_cons, List.mem_append, List.mem_flatMap,
    List.not_mem_nil, or_false] at hc
  rcases hc with rfl | ⟨d, -, hd⟩ | rfl
  · decide
  · exact not_control_escapedChar d c hd
  · decide

theorem not_control_decimal (n : Int) : ∀ c ∈ (decimal n).toList, 0x20 ≤ c.toNat := by
  have hdigits : ∀ c ∈ Nat.toDigits 10 n.natAbs, 0x20 ≤ c.toNat := fun c hc =>
    not_control_of_isNumeralChar (isNumeralChar_of_isDigit (isDigit_toDigits _ c hc))
  rw [toList_decimal]
  split
  · exact List.forall_mem_cons.mpr ⟨by decide, hdigits⟩
  · exact hdigits

mutual

/-- No control character stands in the text of a value. -/
theorem not_control_chars {levels : Nat} : ∀ {j : Json}, KeptWith IsFinite levels j →
    ∀ c ∈ j.chars, 0x20 ≤ c.toNat
  | .null, _ => by rw [chars]; exact not_control_of_all rfl
  | .bool b, _ => by cases b <;> (rw [chars]; exact not_control_of_all rfl)
  | .integer n, _ => by rw [chars]; exact not_control_decimal n
  | .float x, hj => by
    rw [chars]
    exact fun c hc => not_control_of_isNumeralChar (isNumeralChar_floatChars hj c hc)
  | .string s, _ => by rw [chars]; exact not_control_stringChars s.toList
  | .array items, hj => by
    rw [chars]
    exact List.forall_mem_cons.mpr ⟨by decide, List.forall_mem_append.mpr
      ⟨not_control_itemChars hj.2, not_control_of_all rfl⟩⟩
  | .object members, hj => by
    rw [chars]
    exact List.forall_mem_cons.mpr ⟨by decide, List.forall_mem_append.mpr
      ⟨not_control_memberChars hj.2, not_control_of_all rfl⟩⟩

theorem not_control_itemChars {levels : Nat} : ∀ {items : List Json},
    KeptItemsWith IsFinite levels items → ∀ c ∈ itemChars items, 0x20 ≤ c.toNat
  | [], _ => by rw [itemChars]; exact List.forall_mem_nil _
  | [item], h => by rw [itemChars]; exact not_control_chars h.1
  | item :: next :: rest, h => by
    rw [itemChars]
    exact List.forall_mem_append.mpr ⟨not_control_chars h.1,
      List.forall_mem_cons.mpr ⟨by decide, not_control_itemChars h.2⟩⟩
    exact List.cons_ne_nil _ _

theorem not_control_memberChars {levels : Nat} : ∀ {members : List (String × Json)},
    KeptMembersWith IsFinite levels members → ∀ c ∈ memberChars members, 0x20 ≤ c.toNat
  | [], _ => by rw [memberChars]; exact List.forall_mem_nil _
  | [(key, value)], h => by
    rw [memberChars]
    exact List.forall_mem_append.mpr ⟨not_control_stringChars key.toList,
      List.forall_mem_cons.mpr ⟨by decide, not_control_chars h.1⟩⟩
  | (key, value) :: next :: rest, h => by
    rw [memberChars]
    · exact List.forall_mem_append.mpr
        ⟨List.forall_mem_append.mpr ⟨not_control_stringChars key.toList,
          List.forall_mem_cons.mpr ⟨by decide, not_control_chars h.1⟩⟩,
        List.forall_mem_cons.mpr ⟨by decide, not_control_memberChars h.2⟩⟩
    · exact List.cons_ne_nil _ _

end

end ClusterFixture.Json

namespace ClusterFixture.Telemetry

open ClusterFixture.Json (lookup? read?)

/-! ## What is written -/

/-- The end of a line, as characters. -/
def lineEnd (line : String) : List Char := if Text.endsWith line "\n" then ['\n'] else []

/-- What is written is the text of the object with one member more, and the line's end. -/
theorem exists_of_tagged? {line scenario out : String} (h : tagged? line scenario = some out) :
    ∃ members, read? line = some (.object members) ∧
      out = String.ofList ((Json.object (Json.insert scenarioKey (.string scenario) members)).chars
        ++ lineEnd line) := by
  unfold tagged? at h
  split at h
  · next members hread =>
    refine ⟨members, hread, ?_⟩
    split at h
    · cases h
    · cases h
      rw [lineEnd]
      split
      · rw [String.ofList_append]
        rfl
      · rw [List.append_nil]
        rfl
  · cases h

/-- It is read as the object with one member more, reread. -/
theorem read?_written {line : String} {members : List (String × Json)}
    (h : read? line = some (.object members)) (scenario : String) :
    read? (String.ofList
        ((Json.object (Json.insert scenarioKey (.string scenario) members)).chars ++ lineEnd line))
      = some (.object ((Json.insert scenarioKey (.string scenario) members).map
          fun m => (m.1, m.2.reread))) := by
  have hread := (Json.hereditary_isFinite.isRead trivial h).insert scenarioKey scenario
  have hkept := hread.1.mono fun _ hx => Json.floatReads_of_isFinite hx
  have hend : Json.Closes (lineEnd line) ∧ Json.skipSpace (lineEnd line) = [] := by
    rw [lineEnd]
    split
    · exact ⟨Json.closes_cons rfl _, rfl⟩
    · exact ⟨Json.closes_nil, rfl⟩
  rw [Json.read?_chars_append hkept hend.1 hend.2, Json.reread_object hread.members.1]

/-- Where all numerals of the line are integers of 64 bits, nothing changes by that. -/
theorem reread_written {line : String} {members : List (String × Json)}
    (h : read? line = some (.object members)) (hline : Json.HasIntegersOnly line.toList)
    (scenario : String) :
    (Json.insert scenarioKey (.string scenario) members).map (fun m => (m.1, m.2.reread))
      = Json.insert scenarioKey (.string scenario) members := by
  have hread := (Json.hereditary_hasIntegersOnly.isRead hline h).insert scenarioKey scenario
  have hsame := (Json.reread_eq_ordered hread.1).trans hread.2
  rw [Json.reread_object hread.members.1] at hsame
  exact Json.object.inj hsame

/-! ## One line -/

theorem endsWith_ofList_iff (cs : List Char) :
    Text.endsWith (String.ofList cs) "\n" = true ↔ ['\n'] <:+ cs := by
  rw [Text.endsWith, List.isSuffixOf_iff_suffix]
  simp only [String.toList_ofList]
  exact Iff.rfl

/-- What is written is one line, and ends as the line did. -/
theorem one_line {cs : List Char} (hcs : ∀ c ∈ cs, 0x20 ≤ c.toNat) (line : String) :
    (Text.endsWith (String.ofList (cs ++ lineEnd line)) "\n" = true ↔
        Text.endsWith line "\n" = true) ∧
      '\n' ∉ (cs ++ lineEnd line).dropLast ∧ '\r' ∉ cs ++ lineEnd line := by
  have hfeed : '\n' ∉ cs := fun h => absurd (hcs _ h) (by decide)
  have hreturn : '\r' ∉ cs := fun h => absurd (hcs _ h) (by decide)
  rw [endsWith_ofList_iff, lineEnd]
  by_cases hends : Text.endsWith line "\n" = true
  · rw [if_pos hends, List.dropLast_concat]
    exact ⟨iff_of_true (List.suffix_append cs ['\n']) hends, hfeed, by simpa using hreturn⟩
  · rw [if_neg hends, List.append_nil]
    refine ⟨iff_of_false (fun hsuffix => ?_) hends, fun h => hfeed (List.mem_of_mem_dropLast h),
      hreturn⟩
    exact hfeed (hsuffix.subset (List.mem_singleton_self _))

/-! ## A line and what it becomes -/

/-- What a line becomes with a scenario. -/
structure Takes (line scenario out : String) : Prop where
  /-- It is the object of the line with the scenario. Of several members of the line under one key,
  the last counts. -/
  object : ∃ raw before after, Json.rawMembers? line = some raw ∧
    read? line = some (.object before) ∧ (∀ key, lookup? key before = lookup? key raw.reverse) ∧
    read? out = some (.object after) ∧ Json.InOrder after ∧
    lookup? scenarioKey after = some (.string scenario) ∧
    (∀ key ≠ scenarioKey, (lookup? key after).isSome = (lookup? key before).isSome) ∧
    (Json.HasIntegersOnly line.toList → ∀ key ≠ scenarioKey, lookup? key after = lookup? key before)
  /-- It ends as the line did. -/
  ends : Text.endsWith out "\n" = true ↔ Text.endsWith line "\n" = true
  /-- There is no other line end. -/
  oneLine : '\n' ∉ out.toList.dropLast ∧ '\r' ∉ out.toList
  /-- It takes no other scenario. -/
  once : ∀ other, tagged? out other = none

theorem takes_of_tagged? {line scenario out : String} (h : tagged? line scenario = some out) :
    Takes line scenario out := by
  obtain ⟨before, hread, rfl⟩ := exists_of_tagged? h
  obtain ⟨raw, hraw, rfl⟩ := Json.exists_rawMembers? hread
  have hobject := (Json.hereditary_isFinite.isRead trivial hread).insert scenarioKey scenario
  have horder : Json.InOrder ((Json.insert scenarioKey (.string scenario)
      (Json.membersOf raw)).map fun m => (m.1, m.2.reread)) :=
    List.pairwise_map.mpr hobject.members.1
  have hlines := one_line (Json.not_control_chars hobject.1) line
  have hout := read?_written hread scenario
  have hscenario : lookup? scenarioKey ((Json.insert scenarioKey (.string scenario)
      (Json.membersOf raw)).map fun m => (m.1, m.2.reread)) = some (.string scenario) := by
    rw [Json.lookup?_map, Json.lookup?_insert_self]
    rfl
  refine ⟨⟨raw, _, _, hraw, hread, fun key => Json.lookup?_membersOf key raw, hout, horder,
    hscenario, fun key hkey => ?_, fun hline key hkey => ?_⟩, hlines.1, ?_, fun other => ?_⟩
  -- A number that is no integer may be read as another one, so here only the keys are the same.
  · rw [Json.lookup?_map, Json.lookup?_insert_of_ne _ _ hkey, Option.isSome_map]
  · rw [reread_written hread hline, Json.lookup?_insert_of_ne _ _ hkey]
  · rw [String.toList_ofList]
    exact hlines.2
  · rw [tagged?_eq_none_iff]
    intro members hmembers
    rw [hout] at hmembers
    cases hmembers
    rw [hscenario]
    rfl

/-- **A line that takes a scenario becomes the same object with the scenario, on one line, and takes
no other.** A line takes none if it is no object, or has a scenario already, and only then. -/
theorem line_takes_scenario_once (line scenario : String) :
    (∀ out, tagged? line scenario = some out → Takes line scenario out) ∧
      (tagged? line scenario = none ↔ ∀ members, read? line = some (.object members) →
        (lookup? scenarioKey members).isSome = true) :=
  ⟨fun _ h => takes_of_tagged? h, tagged?_eq_none_iff line scenario⟩

/-- A line with a repeated key takes a scenario with a line break and a quote in it; a line with a
scenario takes none. -/
theorem lines_with_and_without_scenario :
    (tagged? "\x7b\"a\":1,\"b\":[-2],\"a\":\"x\"\x7d\n" "s\n\"1" =
        some "\x7b\"a\":\"x\",\"b\":[-2],\"scenario\":\"s\\n\\\"1\"\x7d\n" ∧
      Takes "\x7b\"a\":1,\"b\":[-2],\"a\":\"x\"\x7d\n" "s\n\"1"
        "\x7b\"a\":\"x\",\"b\":[-2],\"scenario\":\"s\\n\\\"1\"\x7d\n" ∧
      Json.HasIntegersOnly "\x7b\"a\":1,\"b\":[-2],\"a\":\"x\"\x7d\n".toList) ∧
    tagged? "\x7b\"scenario\":0\x7d" "s" = none ∧
      ∀ members, read? "\x7b\"scenario\":0\x7d" = some (.object members) →
        (lookup? scenarioKey members).isSome = true := by
  have hsome : tagged? "\x7b\"a\":1,\"b\":[-2],\"a\":\"x\"\x7d\n" "s\n\"1" =
      some "\x7b\"a\":\"x\",\"b\":[-2],\"scenario\":\"s\\n\\\"1\"\x7d\n" := by
    decide +kernel
  have hnone : tagged? "\x7b\"scenario\":0\x7d" "s" = none := by decide +kernel
  have hnumerals : Json.numerals "\x7b\"a\":1,\"b\":[-2],\"a\":\"x\"\x7d\n".toList =
      [['1'], ['-', '2']] := by
    decide +kernel
  refine ⟨⟨hsome, (line_takes_scenario_once _ _).1 _ hsome, ?_⟩, hnone,
    (line_takes_scenario_once _ _).2.mp hnone⟩
  rw [Json.HasIntegersOnly, hnumerals]
  exact List.forall_mem_cons.mpr ⟨⟨1, by decide, by decide, rfl⟩,
    List.forall_mem_singleton.mpr ⟨-2, by decide, by decide, rfl⟩⟩

end ClusterFixture.Telemetry
