/-
What the text of a fault reports.

A collection shows the text of its only member, or the texts of its members behind their numbers.
Either way the texts of its members come through whole and in order, so the text of a fault has in it
those of all the faults at its ends, one after the other, however deep they lie.
-/

import ClusterFixture.Proofs.FaultMembers

set_option autoImplicit false

namespace ClusterFixture

/-! ## Texts in a text -/

namespace Text

/-- Parts stand in a text one after the other, each of them whole and none over another. -/
inductive StandInTurn : List String → String → Prop where
  | nil (rest : String) : StandInTurn [] rest
  | cons (before part : String) {parts : List String} {rest : String} :
    StandInTurn parts rest → StandInTurn (part :: parts) (before ++ part ++ rest)

namespace StandInTurn

variable {parts others : List String} {s t : String}

theorem single (s : String) : StandInTurn [s] s := by
  have h := cons "" s (nil "")
  rwa [String.empty_append, String.append_empty] at h

/-- They stand in it as well with another text in front. -/
theorem prepend (front : String) (h : StandInTurn parts s) : StandInTurn parts (front ++ s) := by
  cases h with
  | nil => exact nil _
  | cons before part h =>
    rw [← String.append_assoc, ← String.append_assoc]
    exact cons (front ++ before) part h

theorem append (h : StandInTurn parts s) (h' : StandInTurn others t) :
    StandInTurn (parts ++ others) (s ++ t) := by
  induction h with
  | nil rest => exact h'.prepend rest
  | cons before part _ ih =>
    rw [String.append_assoc]
    exact cons before part ih

theorem infix_of_mem {part : String} (h : StandInTurn parts s) (hmem : part ∈ parts) :
    part.toList <:+: s.toList := by
  induction h with
  | nil rest => cases hmem
  | cons before first _ ih =>
    simp only [String.toList_append]
    rcases List.mem_cons.mp hmem with rfl | hmem
    · exact List.infix_append _ _ _
    · exact (ih hmem).trans (List.suffix_append _ _).isInfix

end StandInTurn

end Text

open Text (StandInTurn)

namespace Fault

/-! ## The text of a fault -/

theorem message_single (single : Fault) : (several [single]).message = single.message := by
  rw [message]

theorem listing_eq_join (first : Nat) (faults : List Fault) :
    listing first faults =
      String.join (faults.mapIdx fun i fault =>
        "\n  " ++ (i + first).repr ++ ": " ++ fault.message) := by
  induction faults generalizing first with
  | nil => rfl
  | cons fault rest ih =>
    rw [listing, ih, List.mapIdx_cons, String.join_cons, Nat.zero_add]
    simp only [Nat.add_assoc, Nat.add_comm 1]

/-- Two members or more are counted and listed. -/
theorem message_several (first second : Fault) (rest : List Fault) :
    (several (first :: second :: rest)).message =
      "Multiple errors occurred (" ++ (first :: second :: rest).length.repr ++ " total):" ++
        listing 1 (first :: second :: rest) := by
  rw [message] <;> simp

/-- What a listing keeps of each of its members it keeps of all of them. -/
theorem standInTurn_listing {faults : List Fault}
    (h : ∀ fault ∈ faults, StandInTurn (fault.leaves.map message) fault.message) (first : Nat) :
    StandInTurn ((faults.flatMap leaves).map message) (listing first faults) := by
  induction faults generalizing first with
  | nil => exact .nil _
  | cons fault rest ih =>
    rw [List.flatMap_cons, List.map_append, listing]
    have hrest := ih (fun other hother => h other (List.mem_cons_of_mem _ hother)) (first + 1)
    exact ((h fault List.mem_cons_self).prepend _).append hrest

/-- The texts of the ends of a fault stand in its own text in turn. -/
theorem standInTurn_message (f : Fault) : StandInTurn (f.leaves.map message) f.message := by
  induction f with
  | plain k description => exact .single _
  | detailed k description detail => exact .single _
  | several faults ih =>
    rw [leaves_several]
    match faults with
    | [] => exact .nil _
    | [single] =>
      rw [message_single, List.flatMap_singleton]
      exact ih single List.mem_cons_self
    | first :: second :: rest =>
      rw [message_several]
      exact (standInTurn_listing ih 1).prepend _

/-- The text of a fault holds what each fault at its ends says, its kind, its description and its
detail, without a gap; and these texts stand in it in order, one after the other. A collection of one
fault has the text of that fault. A collection of more gives their number and then each of them in
order, on a line of its own behind its place in the list. -/
theorem message_reports (f : Fault) :
    (∀ k description, .plain k description ∈ f.leaves →
        (k.name ++ ": " ++ description).toList <:+: f.message.toList) ∧
      (∀ k description detail, .detailed k description detail ∈ f.leaves →
        (k.name ++ ": " ++ description ++ " -> " ++ detail).toList <:+: f.message.toList) ∧
      StandInTurn (f.leaves.map message) f.message ∧
      (∀ single : Fault, (several [single]).message = single.message) ∧
      (∀ (first second : Fault) (rest : List Fault),
        let faults := first :: second :: rest
        (several faults).message =
          "Multiple errors occurred (" ++ faults.length.repr ++ " total):" ++
            String.join (faults.mapIdx fun i fault =>
              "\n  " ++ (i + 1).repr ++ ": " ++ fault.message)) := by
  have hturn : StandInTurn (f.leaves.map message) f.message := standInTurn_message f
  have hwhole (leaf : Fault) (h : leaf ∈ f.leaves) : leaf.message.toList <:+: f.message.toList :=
    hturn.infix_of_mem (List.mem_map_of_mem h)
  refine ⟨fun k description h => ?_, fun k description detail h => ?_, hturn, message_single,
    fun first second rest => ?_⟩
  · simpa only [message] using hwhole _ h
  · simpa only [message] using hwhole _ h
  · exact (message_several first second rest).trans (by rw [listing_eq_join])

/-- Three checks, one of which had nothing to say and one of which collected in turn. -/
def deepReport : Fault :=
  .several [.several [.several [.plain .ioError "disk full"]], .several [],
    .several [.detailed .timeout "Timed out" "no sync", .plain .dataMismatch "Files differ"]]

/-- What the last check collected stands whole in the text of all of them. -/
theorem message_reports_deep :
    .plain .dataMismatch "Files differ" ∈ deepReport.leaves ∧
      .detailed .timeout "Timed out" "no sync" ∈ deepReport.leaves ∧
      "DataMismatch: Files differ".toList <:+: deepReport.message.toList ∧
      "Timeout: Timed out -> no sync".toList <:+: deepReport.message.toList := by
  have hplain : .plain .dataMismatch "Files differ" ∈ deepReport.leaves :=
    .tail _ (.tail _ (.head _))
  have hdetailed : .detailed .timeout "Timed out" "no sync" ∈ deepReport.leaves :=
    .tail _ (.head _)
  have hfiles : FaultKind.dataMismatch.name ++ ": " ++ "Files differ"
      = "DataMismatch: Files differ" := by
    decide
  have htimeout : FaultKind.timeout.name ++ ": " ++ "Timed out" ++ " -> " ++ "no sync"
      = "Timeout: Timed out -> no sync" := by
    decide
  obtain ⟨hwhole, hwholeDetailed, -⟩ := message_reports deepReport
  refine ⟨hplain, hdetailed, ?_, ?_⟩
  · rw [← hfiles]
    exact hwhole _ _ hplain
  · rw [← htimeout]
    exact hwholeDetailed _ _ _ hdetailed

end Fault

end ClusterFixture
