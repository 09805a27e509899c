import Accord.Proofs.Schema.Outcome
import Accord.Proofs.Schema.Patterns

namespace Accord

def Detail.RefusesPattern (d : Detail) : Prop :=
  ∃ source refusal, d.message = Schema.refusedPattern source refusal

namespace Schema

theorem prefix_refusedPattern (source : String) (refusal : Pattern.Refusal) :
    ['I', 'n', 'v'] <+: (refusedPattern source refusal).toList := by
  have hsplit : ∃ rest, refusedPattern source refusal = "Invalid pattern '" ++ source ++ "'" ++ rest :=
    ⟨_, rfl⟩
  obtain ⟨rest, hrest⟩ := hsplit
  rw [hrest]
  simp

/-- The message is of another kind than those about patterns that do not compile. -/
def IsOther (message : String) : Prop := ¬['I', 'n', 'v'] <+: message.toList

theorem IsOther.not_refusesPattern {d : Detail} (h : IsOther d.message) : ¬d.RefusesPattern := by
  rintro ⟨source, refusal, hmessage⟩
  exact h (hmessage ▸ prefix_refusedPattern source refusal)

/-- A complaint about a value that is there, and of another kind than those about patterns that do not compile, if
none of these is made. -/
structure Complaint.Plain (compiles : Prop) (c : Complaint) : Prop where
  present : c.kind ≠ "missing"
  other : compiles → IsOther c.message

section

variable {compiles : Prop} {c : Complaint}

theorem plain_of_ite {broken : Prop} [Decidable broken] {told : Complaint}
    (h : c ∈ if broken then [told] else []) (plain : told.Plain compiles) : c.Plain compiles := by
  split at h
  · rwa [List.mem_singleton.mp h]
  · cases h

theorem plain_of_lengthComplaints {lo hi : Option UInt64} {length : Nat}
    (h : c ∈ lengthComplaints lo hi length) : c.Plain compiles := by
  rcases List.mem_append.mp h with h | h
  · cases lo with
    | none => cases h
    | some least => exact plain_of_ite h ⟨by simp, fun _ => by simp [IsOther]⟩
  · cases hi with
    | none => cases h
    | some most => exact plain_of_ite h ⟨by simp, fun _ => by simp [IsOther]⟩

theorem plain_of_integerComplaints {lo hi : Option Int64} {n : Int}
    (h : c ∈ integerComplaints lo hi n) : c.Plain compiles := by
  rcases List.mem_append.mp h with h | h
  · cases lo with
    | none => cases h
    | some least => exact plain_of_ite h ⟨by simp [tooSmall], fun _ => by simp [IsOther, tooSmall]⟩
  · cases hi with
    | none => cases h
    | some most => exact plain_of_ite h ⟨by simp [tooLarge], fun _ => by simp [IsOther, tooLarge]⟩

theorem plain_of_numberComplaints {lo hi : Option Double} {x : Binary64}
    (h : c ∈ numberComplaints lo hi x) : c.Plain compiles := by
  rcases List.mem_append.mp h with h | h
  · cases lo with
    | none => cases h
    | some least => exact plain_of_ite h ⟨by simp [tooSmall], fun _ => by simp [IsOther, tooSmall]⟩
  · cases hi with
    | none => cases h
    | some most => exact plain_of_ite h ⟨by simp [tooLarge], fun _ => by simp [IsOther, tooLarge]⟩

theorem plain_of_textComplaints {lo hi : Option UInt64} {pattern : Option String} {s : String}
    (h : c ∈ textComplaints lo hi pattern s) : c.Plain (OwnPatternCompiles (.string lo hi pattern)) := by
  rcases List.mem_append.mp h with h | h
  · rcases List.mem_append.mp h with h | h
    · cases lo with
      | none => cases h
      | some least => exact plain_of_ite h ⟨by simp, fun _ => by simp [IsOther]⟩
    · cases hi with
      | none => cases h
      | some most => exact plain_of_ite h ⟨by simp, fun _ => by simp [IsOther]⟩
  · cases pattern with
    | none => cases h
    | some source =>
      dsimp only at h
      split at h
      · split at h
        · cases h
        · rw [List.mem_singleton.mp h]
          exact ⟨by simp, fun _ => by simp [IsOther]⟩
      · next refusal hrefused =>
        rw [List.mem_singleton.mp h]
        refine ⟨by simp, fun ⟨e, he⟩ => ?_⟩
        cases hrefused.symm.trans he

theorem plain_of_toInteger {strict : Bool} {v : Json} (h : toInteger strict v = .error c) :
    c.Plain compiles := by
  simp only [toInteger] at h
  repeat' split at h
  all_goals cases h
  all_goals exact ⟨by simp [outOfRange], fun _ => by simp [IsOther, outOfRange]⟩

theorem plain_of_toNumber {strict : Bool} {v : Json} (h : toNumber strict v = .error c) :
    c.Plain compiles := by
  simp only [toNumber] at h
  repeat' split at h
  all_goals cases h
  all_goals exact ⟨by simp, fun _ => by simp [IsOther]⟩

theorem plain_of_toBoolean {strict : Bool} {v : Json} (h : toBoolean strict v = .error c) :
    c.Plain compiles := by
  simp only [toBoolean] at h
  repeat' split at h
  all_goals cases h
  all_goals exact ⟨by simp, fun _ => by simp [IsOther]⟩

theorem mem_of_unless {complaints : List Complaint} {v : Json} {told : List Complaint}
    (h : Verdict.unless complaints v = .error told) (hc : c ∈ told) : c ∈ complaints := by
  unfold Verdict.unless at h
  split at h
  · cases h
  · cases h
    exact hc

theorem plain_of_leafVerdict {s : Schema} {v : Json} {mode : Mode} {told : List Complaint}
    (h : leafVerdict? mode v s = some (.error told)) (hc : c ∈ told) :
    c.Plain (OwnPatternCompiles s) := by
  cases s with
  | array | object | union | optional | conditional => cases h
  | any => cases h
  | null =>
    simp only [leafVerdict?, checkNull, Option.some.injEq] at h
    split at h <;> cases h
    rw [List.mem_singleton.mp hc]
    exact ⟨by simp, fun _ => by simp [IsOther]⟩
  | literal expected =>
    simp only [leafVerdict?, checkLiteral, Option.some.injEq] at h
    split at h <;> cases h
    rw [List.mem_singleton.mp hc]
    exact ⟨by simp, fun _ => by simp [IsOther]⟩
  | string lo hi pattern =>
    simp only [leafVerdict?, checkString, Option.some.injEq] at h
    split at h
    · exact plain_of_textComplaints (mem_of_unless h hc)
    · cases h
      rw [List.mem_singleton.mp hc]
      exact ⟨by simp, fun _ => by simp [IsOther]⟩
  | integer lo hi =>
    simp only [leafVerdict?, checkInteger, Option.some.injEq] at h
    split at h
    · exact plain_of_integerComplaints (mem_of_unless h hc)
    · next hwrong =>
      cases h
      rw [List.mem_singleton.mp hc]
      exact plain_of_toInteger hwrong
  | number lo hi =>
    simp only [leafVerdict?, checkNumber, Option.some.injEq] at h
    split at h
    · exact plain_of_numberComplaints (mem_of_unless h hc)
    · next hwrong =>
      cases h
      rw [List.mem_singleton.mp hc]
      exact plain_of_toNumber hwrong
  | boolean =>
    simp only [leafVerdict?, checkBoolean, Option.some.injEq] at h
    split at h
    · cases h
    · next hwrong =>
      cases h
      rw [List.mem_singleton.mp hc]
      exact plain_of_toBoolean hwrong

end

def AllOther (details : List Detail) : Prop := ∀ d ∈ details, IsOther d.message

theorem AllOther.under {details : List Detail} (h : AllOther details) (path : List Step) :
    AllOther (details.map (Detail.under path)) := by
  intro d hd
  obtain ⟨d', hd', rfl⟩ := List.mem_map.mp hd
  exact h d' hd'

theorem AllOther.append {first rest : List Detail} (hfirst : AllOther first) (hrest : AllOther rest) :
    AllOther (first ++ rest) := by
  intro d hd
  rcases List.mem_append.mp hd with hd | hd
  · exact hfirst d hd
  · exact hrest d hd

theorem AllOther.flatMap {α : Type} {l : List α} {f : α → List Detail}
    (h : ∀ a ∈ l, AllOther (f a)) : AllOther (l.flatMap f) := by
  intro d hd
  obtain ⟨a, ha, hd⟩ := List.mem_flatMap.mp hd
  exact h a ha d hd

theorem allOther_nil : AllOther [] := fun _ h => nomatch h

theorem allOther_singleton {d : Detail} (h : IsOther d.message) : AllOther [d] := by
  intro d' hd'
  rwa [List.mem_singleton.mp hd']

theorem allOther_report {verdict : Verdict}
    (h : ∀ told, verdict = .error told → ∀ c ∈ told, IsOther c.message) :
    AllOther (verdict.report [] []).2 := by
  cases verdict with
  | ok v => exact allOther_nil
  | error told =>
    intro d hd
    have hmem : d ∈ told.map (Complaint.atPath []) := hd
    obtain ⟨c, hc, rfl⟩ := List.mem_map.mp hmem
    exact h told rfl c hc

theorem allOther_choiceDetails {variants : List Schema} {v : Json} {mode : Mode}
    (h : ∀ s ∈ variants, AllOther (s.outcome v mode).2) :
    AllOther (choiceOutcome variants v mode).2 := by
  rw [choiceOutcome]
  cases variants.findSome? fun s => accepted (s.outcome v mode) with
  | some w => exact allOther_nil
  | none => exact AllOther.flatMap fun s hs => (h s hs).under _

theorem allOther_fieldOutcome {members : List (String × Json)} {mode : Mode} {name : String}
    {f : Field Schema} (h : ∀ v, AllOther (f.schema.outcome v mode).2) :
    AllOther (fieldOutcome members mode name f).2 := by
  simp only [fieldOutcome]
  cases memberFor (f.wireName name) name members with
  | some v => exact allOther_nil.append ((h v).under _)
  | none =>
    cases f.fallback with
    | some v => exact allOther_nil
    | none =>
      cases f.required with
      | true => exact allOther_singleton (by simp [IsOther])
      | false => exact allOther_nil

theorem allOther_outcome {s : Schema} (compile : PatternsCompile s) (v : Json) (mode : Mode) :
    AllOther (s.outcome v mode).2 := by
  induction s using partsInduction generalizing v mode with
  | step s ih =>
  have hparts : ∀ t ∈ s.parts, ∀ v mode, AllOther (t.outcome v mode).2 :=
    fun t ht => ih t ht (compile.of_mem_parts ht)
  have hleaf : ∀ verdict, leafVerdict? mode v s = some verdict → AllOther (s.outcome v mode).2 := by
    intro verdict h
    rw [outcome_leaf h]
    exact allOther_report fun told herror c hc =>
      (plain_of_leafVerdict (h.trans (congrArg some herror)) hc).other compile.here
  cases s with
  | any | null | literal | string | integer | number | boolean => exact hleaf _ rfl
  | optional inner =>
    rw [outcome_optional]
    split
    · exact allOther_nil
    · exact hparts _ List.mem_cons_self v mode
  | array items lo hi =>
    cases v with
    | array vs =>
      rw [outcome_array]
      refine AllOther.append ?_ (.flatMap fun e _ => (hparts _ List.mem_cons_self _ _).under _)
      intro d hd
      obtain ⟨c, hc, rfl⟩ := List.mem_map.mp hd
      exact (plain_of_lengthComplaints hc).other trivial
    | _ => exact allOther_singleton (by simp [IsOther])
  | object model =>
    cases v with
    | object members =>
      rw [outcome_object]
      refine AllOther.append (.flatMap fun e he => ?_) ?_
      · exact allOther_fieldOutcome fun v => hparts _ (List.mem_map.mpr ⟨e, he, rfl⟩) v _
      · split
        · intro d hd
          obtain ⟨e, -, rfl⟩ := List.mem_map.mp hd
          simp [IsOther]
        · exact allOther_nil
    | _ => exact allOther_singleton (by simp [IsOther])
  | union variants =>
    rw [outcome_union]
    exact allOther_choiceDetails fun s hs => hparts s hs v mode
  | conditional mapping =>
    rw [outcome_conditional]
    exact allOther_choiceDetails fun s hs => hparts s hs v mode

theorem allOther_of_validate {s : Schema} (compile : PatternsCompile s) {v : Json}
    {strict : Option Bool} {details : List Detail} (h : s.validate v strict = .error details) :
    AllOther details := by
  have hother := allOther_outcome compile v ⟨strict, false⟩
  rw [validate_eq] at h
  split at h
  · cases h
  · next out errors _ hout =>
    cases h
    rwa [hout] at hother

end Schema

end Accord
