import Accord.Proofs.Json.Merging
import Accord.Toml.Document

namespace Accord.Toml

variable {dotted : Bool} {edit : Origin → Entries → Option Entries} {origin : Origin} {entries out : Entries}
  {path : List String} {key : String} {v : Json} {s rest : List Char} {d e : Document}

inductive Tree.InOrder : Tree → Prop
  | value {v : Json} : v.InOrder → InOrder (.value v)
  | table {origin : Origin} {entries : Entries} : (∀ e ∈ entries, InOrder e.2) → InOrder (.table origin entries)
  | rows {tables : List Entries} : (∀ row ∈ tables, ∀ e ∈ row, InOrder e.2) → InOrder (.rows tables)

def EntriesInOrder (entries : Entries) : Prop := ∀ e ∈ entries, e.2.InOrder

theorem entriesInOrder_nil : EntriesInOrder [] := fun _ h => absurd h List.not_mem_nil

mutual

theorem Tree.InOrder.toJson : ∀ {t : Tree}, t.InOrder → t.toJson.InOrder
  | .value _, .value h => h
  | .table _ _, .table h => Json.inOrder_sortMembers (inOrder_entriesToJson h)
  | .rows _, .rows h => .array fun v hv => inOrder_rowsToJson h v (List.mem_reverse.mp hv)
termination_by structural t => t

theorem inOrder_entriesToJson : ∀ {entries : List (String × Tree)}, (∀ e ∈ entries, e.2.InOrder) →
    ∀ e ∈ entriesToJson entries, e.2.InOrder
  | [], _ => fun _ h => nomatch h
  | (_, _) :: _, h =>
    List.forall_mem_cons.mpr ⟨(h _ List.mem_cons_self).toJson,
      inOrder_entriesToJson fun e he => h e (List.mem_cons_of_mem _ he)⟩
termination_by structural entries => entries

theorem inOrder_rowsToJson : ∀ {tables : List (List (String × Tree))},
    (∀ row ∈ tables, ∀ e ∈ row, e.2.InOrder) → ∀ v ∈ rowsToJson tables, v.InOrder
  | [], _ => fun _ h => nomatch h
  | _ :: _, h =>
    List.forall_mem_cons.mpr ⟨Json.inOrder_sortMembers (inOrder_entriesToJson (h _ List.mem_cons_self)),
      inOrder_rowsToJson fun row hrow => h row (List.mem_cons_of_mem _ hrow)⟩
termination_by structural tables => tables

end

theorem EntriesInOrder.put {t : Tree} (h : EntriesInOrder entries) (ht : t.InOrder) :
    EntriesInOrder (Named.put key t entries) := by
  intro e he
  rcases Named.mem_of_mem_put he with rfl | he
  · exact ht
  · exact h e he

theorem EntriesInOrder.concat {t : Tree} (h : EntriesInOrder entries) (ht : t.InOrder) :
    EntriesInOrder (entries ++ [(key, t)]) :=
  List.forall_mem_append.mpr ⟨h, fun _ he => List.mem_singleton.mp he ▸ ht⟩

theorem EntriesInOrder.of_lookup {t : Tree} (h : EntriesInOrder entries) (ht : entries.lookup key = some t) :
    t.InOrder := h _ (Named.mem_of_lookup ht)

/-- The trees on the way to the place of an edit are in order after it, if what is edited is. -/
theorem EntriesInOrder.editAt (hedit : ∀ {origin entries out}, EntriesInOrder entries →
      edit origin entries = some out → EntriesInOrder out)
    (h : EntriesInOrder entries) (hout : editAt dotted edit origin entries path = some out) :
    EntriesInOrder out := by
  induction path generalizing origin entries out with
  | nil => exact hedit h hout
  | cons key path ih =>
    unfold Toml.editAt at hout
    split at hout
    · obtain ⟨inner, hinner, rfl⟩ := Option.map_eq_some_iff.mp hout
      exact h.put (.table (ih entriesInOrder_nil hinner))
    · next hfound =>
      split at hout
      · cases hout
      · obtain ⟨inner, hinner, rfl⟩ := Option.map_eq_some_iff.mp hout
        cases h.of_lookup hfound with
        | table hfoundInner => exact h.put (.table (ih hfoundInner hinner))
    · next hfound =>
      obtain ⟨row, hrow, rfl⟩ := Option.map_eq_some_iff.mp hout
      cases h.of_lookup hfound with
      | rows hrows =>
        obtain ⟨hfirst, holder⟩ := List.forall_mem_cons.mp hrows
        exact h.put (.rows (List.forall_mem_cons.mpr ⟨ih hfirst hrow, holder⟩))
    · cases hout

theorem EntriesInOrder.addValue (h : EntriesInOrder entries) (hv : v.InOrder)
    (hout : addValue path key v origin entries = some out) : EntriesInOrder out := by
  refine h.editAt (fun {_ _ _} hentries hadded => ?_) hout
  split at hadded
  · cases hadded
  · cases hadded
    exact hentries.concat (.value hv)

theorem EntriesInOrder.addValueAt {table : List String} (h : EntriesInOrder entries) (hv : v.InOrder)
    (hout : addValueAt table path key v entries = some out) : EntriesInOrder out :=
  h.editAt (fun hentries hadded => hentries.addValue hv hadded) hout

theorem EntriesInOrder.defineTable (h : EntriesInOrder entries)
    (hout : defineTable path key entries = some out) : EntriesInOrder out := by
  refine h.editAt (fun {_ _ _} hentries hadded => ?_) hout
  split at hadded
  · cases hadded
    exact hentries.concat (.table entriesInOrder_nil)
  · next hfound =>
    cases hadded
    cases hentries.of_lookup hfound with
    | table hinner => exact hentries.put (.table hinner)
  · cases hadded

theorem EntriesInOrder.defineRow (h : EntriesInOrder entries)
    (hout : defineRow path key entries = some out) : EntriesInOrder out := by
  refine h.editAt (fun {_ _ _} hentries hadded => ?_) hout
  split at hadded
  · cases hadded
    exact hentries.concat (.rows (List.forall_mem_singleton.mpr entriesInOrder_nil))
  · next hfound =>
    cases hadded
    cases hentries.of_lookup hfound with
    | rows hrows => exact hentries.put (.rows (List.forall_mem_cons.mpr ⟨entriesInOrder_nil, hrows⟩))
  · cases hadded

theorem inOrder_of_int64? {negative : Bool} {n : Nat} (h : int64? negative n = some v) : v.InOrder := by
  unfold int64? at h
  repeat' split at h
  all_goals first | cases h; exact .int _ | cases h

theorem inOrder_of_readInteger (h : readInteger s = some (v, rest)) : v.InOrder := by
  obtain ⟨⟨digits, tail⟩, -, h⟩ := Option.bind_eq_some_iff.mp h
  obtain ⟨w, hw, h⟩ := Option.map_eq_some_iff.mp h
  cases h
  exact inOrder_of_int64? hw

theorem inOrder_of_readRadix {base : Nat} (h : readRadix base s = some (v, rest)) : v.InOrder := by
  obtain ⟨⟨digits, tail⟩, -, h⟩ := Option.bind_eq_some_iff.mp h
  obtain ⟨w, hw, h⟩ := Option.map_eq_some_iff.mp h
  cases h
  exact inOrder_of_int64? hw

theorem inOrder_of_readFloat (h : readFloat s = some (v, rest)) : v.InOrder := by
  unfold readFloat at h
  generalize Text.takeSign s = signed at h
  obtain ⟨negative, unsigned⟩ := signed
  obtain ⟨⟨whole, tail⟩, -, h⟩ := Option.bind_eq_some_iff.mp h
  obtain ⟨⟨fraction, tail'⟩, -, h⟩ := Option.bind_eq_some_iff.mp h
  obtain ⟨⟨exponent, tail''⟩, -, h⟩ := Option.bind_eq_some_iff.mp h
  dsimp only at h
  split at h
  · cases h
  · split at h
    · cases h
      exact .float _
    · split at h
      · cases h
        exact .null
      · cases h

theorem inOrder_of_readSpecial (h : readSpecial s = some (v, rest)) : v.InOrder := by
  unfold readSpecial at h
  split at h
  · cases h
    exact .null
  · cases h
    exact .null
  · cases h

theorem inOrder_of_readMoment (h : readMoment s = some (v, rest)) : v.InOrder := by
  obtain ⟨tail, -, h⟩ := Option.map_eq_some_iff.mp h
  cases h
  exact .object (List.pairwise_singleton _ _) (List.forall_mem_singleton.mpr (.string _))

theorem inOrder_of_readNumber (h : readNumber s = some (v, rest)) : v.InOrder := by
  unfold readNumber at h
  split at h
  · exact inOrder_of_readRadix h
  · exact inOrder_of_readRadix h
  · exact inOrder_of_readRadix h
  · split at h
    · next hread =>
      cases h
      exact inOrder_of_readMoment hread
    · split at h
      · next hread =>
        cases h
        exact inOrder_of_readFloat hread
      · split at h
        · next hread =>
          cases h
          exact inOrder_of_readSpecial hread
        · exact inOrder_of_readInteger h

mutual

theorem inOrder_of_readValue (levels fuel : Nat) {s rest : List Char} {v : Json}
    (h : readValue levels fuel s = some (v, rest)) : v.InOrder := by
  unfold readValue at h
  split at h
  · next levels => exact inOrder_of_readItems levels fuel fuel (fun _ hv => absurd hv List.not_mem_nil) h
  · next levels =>
    split at h
    · cases h
      exact .object List.Pairwise.nil fun _ he => absurd he List.not_mem_nil
    · exact inOrder_of_readInline levels fuel fuel entriesInOrder_nil h
  · cases h
    exact .bool true
  · cases h
    exact .bool false
  · obtain ⟨⟨text, tail⟩, -, h⟩ := Option.map_eq_some_iff.mp h
    cases h
    exact .string text
  · obtain ⟨⟨text, tail⟩, -, h⟩ := Option.map_eq_some_iff.mp h
    cases h
    exact .string text
  · exact inOrder_of_readNumber h
termination_by (levels, fuel + 1)

theorem inOrder_of_readItems (levels fuel count : Nat) {acc : List Json} {s rest : List Char} {v : Json}
    (hacc : ∀ v ∈ acc, v.InOrder) (h : readItems levels fuel count acc s = some (v, rest)) : v.InOrder := by
  unfold readItems at h
  split at h
  · cases h
    exact .array fun v hv => hacc v (List.mem_reverse.mp hv)
  · cases h
  · next count _ =>
    obtain ⟨⟨w, tail⟩, hw, h⟩ := Option.bind_eq_some_iff.mp h
    have hwacc : ∀ v ∈ w :: acc, v.InOrder :=
      List.forall_mem_cons.mpr ⟨inOrder_of_readValue levels fuel hw, hacc⟩
    dsimp only at h
    split at h
    · exact inOrder_of_readItems levels fuel count hwacc h
    · cases h
      exact .array fun v hv => hwacc v (List.mem_reverse.mp hv)
    · cases h
termination_by (levels, fuel + 2 + count)

theorem inOrder_of_readInline (levels fuel count : Nat) {entries : Entries} {s rest : List Char} {v : Json}
    (hentries : EntriesInOrder entries) (h : readInline levels fuel count entries s = some (v, rest)) :
    v.InOrder := by
  unfold readInline at h
  split at h
  · cases h
  · next count =>
    obtain ⟨⟨⟨path, key⟩, tail⟩, -, h⟩ := Option.bind_eq_some_iff.mp h
    dsimp only at h
    split at h
    · obtain ⟨⟨w, tail⟩, hw, h⟩ := Option.bind_eq_some_iff.mp h
      obtain ⟨added, hadded, h⟩ := Option.bind_eq_some_iff.mp h
      have hadded := hentries.addValue (inOrder_of_readValue levels fuel hw) hadded
      split at h
      · exact inOrder_of_readInline levels fuel count hadded h
      · cases h
        exact (Tree.InOrder.table hadded).toJson
      · cases h
    · cases h
termination_by (levels, fuel + 2 + count)

end

theorem inOrder_of_readLine {fuel : Nat} (h : EntriesInOrder d.entries)
    (hline : readLine fuel d s = some (e, rest)) : EntriesInOrder e.entries := by
  unfold readLine at hline
  split at hline
  all_goals
    obtain ⟨⟨⟨path, key⟩, tail⟩, -, hline⟩ := Option.bind_eq_some_iff.mp hline
    split at hline
  · obtain ⟨added, hadded, hline⟩ := Option.bind_eq_some_iff.mp hline
    obtain ⟨tail, -, hline⟩ := Option.bind_eq_some_iff.mp hline
    cases hline
    exact h.defineRow hadded
  · cases hline
  · obtain ⟨added, hadded, hline⟩ := Option.bind_eq_some_iff.mp hline
    obtain ⟨tail, -, hline⟩ := Option.bind_eq_some_iff.mp hline
    cases hline
    exact h.defineTable hadded
  · cases hline
  · obtain ⟨⟨w, tail⟩, hw, hline⟩ := Option.bind_eq_some_iff.mp hline
    obtain ⟨added, hadded, hline⟩ := Option.bind_eq_some_iff.mp hline
    obtain ⟨tail, -, hline⟩ := Option.bind_eq_some_iff.mp hline
    cases hline
    exact h.addValueAt (inOrder_of_readValue _ _ hw) hadded
  · cases hline

theorem inOrder_of_readLinesOf {length fuel : Nat} (h : EntriesInOrder d.entries)
    (hlines : readLinesOf length fuel d s = some e) : EntriesInOrder e.entries := by
  induction fuel generalizing d s with
  | zero =>
    unfold readLinesOf at hlines
    cases hrest : skipLines length s with
    | nil =>
      rw [hrest] at hlines
      cases hlines
      exact h
    | cons c tail =>
      rw [hrest] at hlines
      cases hlines
  | succ fuel ih =>
    unfold readLinesOf at hlines
    cases hrest : skipLines length s with
    | nil =>
      rw [hrest] at hlines
      cases hlines
      exact h
    | cons c tail =>
      rw [hrest] at hlines
      obtain ⟨⟨f, behind⟩, hline, hlines⟩ := Option.bind_eq_some_iff.mp hlines
      exact ih (inOrder_of_readLine h hline) hlines

theorem inOrder_of_read {text : String} (h : read text = some v) : v.InOrder := by
  obtain ⟨d, hd, rfl⟩ := Option.map_eq_some_iff.mp h
  exact (Tree.InOrder.table (inOrder_of_readLinesOf entriesInOrder_nil hd)).toJson

end Accord.Toml
