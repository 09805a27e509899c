import Accord.Negotiation.Choice
import Accord.Proofs.Named

namespace Accord

section Search

variable {α : Type} {le : α → α → Bool} {found : α → Bool} {l : List α} {a x y : α}
  (trans : ∀ a b c, le a b = true → le b c = true → le a c = true)
  (total : ∀ a b, (le a b || le b a) = true)

include trans total

theorem find?_mergeSort_cons (a : α) (l : List α) :
    ((a :: l).mergeSort le).find? found =
      match (l.mergeSort le).find? found with
      | some x => if found a && le a x then some a else some x
      | none => if found a then some a else none := by
  obtain ⟨lower, upper, hsort, hothers, hlower⟩ := List.mergeSort_cons trans total a l
  have hsorted := List.pairwise_mergeSort trans total (a :: l)
  rw [hsort] at hsorted
  have hupper : ∀ y ∈ upper, le a y = true :=
    (List.pairwise_cons.mp (List.pairwise_append.mp hsorted).2.1).1
  rw [hsort, hothers, List.find?_append, List.find?_append, List.find?_cons]
  cases hfirst : lower.find? found with
  | some x =>
    have hbehind : le a x = false := by simpa using hlower x (List.mem_of_find?_eq_some hfirst)
    simp [hbehind]
  | none =>
    cases hrest : upper.find? found with
    | some x =>
      have hbefore : le a x = true := hupper x (List.mem_of_find?_eq_some hrest)
      cases ha : found a <;> simp [hbefore]
    | none => cases ha : found a <;> simp

theorem le_of_find?_mergeSort (h : (l.mergeSort le).find? found = some x) (hy : y ∈ l)
    (hfound : found y = true) : le x y = true := by
  obtain ⟨-, before, after, hsort, hbefore⟩ := List.find?_eq_some_iff_append.mp h
  have hsorted := List.pairwise_mergeSort trans total l
  rw [hsort] at hsorted
  have hafter := (List.pairwise_cons.mp (List.pairwise_append.mp hsorted).2.1).1
  have hmem : y ∈ before ++ x :: after := hsort ▸ List.mem_mergeSort.mpr hy
  rcases List.mem_append.mp hmem with hmem | hmem
  · have hother := hbefore y hmem
    simp [hfound] at hother
  rcases List.mem_cons.mp hmem with rfl | hmem
  · simpa using total y y
  · exact hafter y hmem

theorem find?_mergeSort_eq_some_iff :
    (l.mergeSort le).find? found = some x ↔ ∃ before after, l = before ++ x :: after ∧
      found x = true ∧ (∀ y ∈ before, found y = true → le y x = false) ∧
      ∀ y ∈ after, found y = true → le x y = true := by
  induction l with
  | nil => simp
  | cons a l ih =>
    rw [find?_mergeSort_cons trans total]
    cases hfind : (l.mergeSort le).find? found with
    | none =>
      have hnone : ∀ y ∈ l, ¬found y = true := fun y hy =>
        List.find?_eq_none.mp hfind y (List.mem_mergeSort.mpr hy)
      constructor
      · intro h
        obtain ⟨ha, rfl⟩ : found a = true ∧ a = x := by simpa using h
        exact ⟨[], l, rfl, ha, fun y hy => (nomatch hy), fun y hy hy' => absurd hy' (hnone y hy)⟩
      · rintro ⟨before, after, hl, hx, -, -⟩
        rcases List.cons_eq_append_iff.mp hl with ⟨rfl, hl⟩ | ⟨before, rfl, rfl⟩
        · obtain ⟨rfl, rfl⟩ := List.cons.inj hl
          exact if_pos hx
        · exact absurd hx (hnone x (List.mem_append_right before List.mem_cons_self))
    | some z =>
      rw [hfind, Option.some.injEq] at ih
      dsimp only
      constructor
      · intro h
        split at h
        · next hboth =>
          obtain ⟨ha, hle⟩ := Bool.and_eq_true_iff.mp hboth
          obtain rfl := Option.some.inj h
          refine ⟨[], l, rfl, ha, fun y hy => (nomatch hy), fun y hy hy' => ?_⟩
          exact trans a z y hle (le_of_find?_mergeSort trans total hfind hy hy')
        · next hneither =>
          obtain ⟨before, after, rfl, hx, hbefore, hafter⟩ := ih.mp (Option.some.inj h)
          obtain rfl := Option.some.inj h
          refine ⟨a :: before, after, rfl, hx, fun y hy hy' => ?_, hafter⟩
          rcases List.mem_cons.mp hy with rfl | hy
          · rw [hy', Bool.true_and] at hneither
            exact Bool.eq_false_iff.mpr hneither
          · exact hbefore y hy hy'
      · rintro ⟨before, after, hl, hx, hbefore, hafter⟩
        rcases List.cons_eq_append_iff.mp hl with ⟨rfl, hl⟩ | ⟨before, rfl, rfl⟩
        · obtain ⟨rfl, rfl⟩ := List.cons.inj hl
          have hz : z ∈ l := List.mem_mergeSort.mp (List.mem_of_find?_eq_some hfind)
          rw [hx, hafter z hz (List.find?_some hfind)]
          rfl
        · have hrest : z = x := ih.mpr ⟨before, after, rfl, hx,
            fun y hy => hbefore y (List.mem_cons_of_mem _ hy), hafter⟩
          subst hrest
          refine if_neg fun hboth => ?_
          obtain ⟨ha, hle⟩ := Bool.and_eq_true_iff.mp hboth
          rw [hbefore a List.mem_cons_self ha] at hle
          cases hle

end Search

theorem MediaType.precedes_iff {m n : MediaType} : m.precedes n = true ↔
    n.specificity < m.specificity ∨
      m.specificity = n.specificity ∧ n.quality.signed ≤ m.quality.signed := by
  simp only [precedes, Bool.or_eq_true, Bool.and_eq_true, decide_eq_true_eq, beq_iff_eq]
  rfl

theorem MediaType.precedes_trans {l m n : MediaType} (hlm : l.precedes m = true)
    (hmn : m.precedes n = true) : l.precedes n = true := by
  rw [precedes_iff] at hlm hmn ⊢
  omega

theorem MediaType.precedes_total (m n : MediaType) : (m.precedes n || n.precedes m) = true := by
  rw [Bool.or_eq_true, precedes_iff, precedes_iff]
  omega

theorem MediaType.mem_of_preferred {accepted : List MediaType} {candidates : List String}
    {key : String} (h : preferred? accepted candidates = some key) : key ∈ candidates := by
  obtain ⟨range, -, hrange⟩ := List.exists_of_findSome?_eq_some h
  exact List.mem_of_find?_eq_some hrange

theorem MediaType.exists_preferred {accepted : List MediaType} {candidates : List String}
    {range : MediaType} {key : String} (hrange : range ∈ accepted) (hkey : key ∈ candidates)
    (h : (read key).fits range = true) : ∃ chosen, preferred? accepted candidates = some chosen := by
  refine Option.isSome_iff_exists.mp (List.findSome?_isSome_iff.mpr ⟨range, hrange, ?_⟩)
  exact List.find?_isSome.mpr ⟨key, hkey, h⟩

theorem MediaType.mem_byPrecedence {types : List String} {m : MediaType} :
    m ∈ byPrecedence types ↔ ∃ t ∈ types, read t = m ∧ Binary64.zero < m.quality := by
  rw [byPrecedence, List.mem_mergeSort, List.mem_filter, List.mem_map, decide_eq_true_iff]
  constructor
  · rintro ⟨⟨t, ht, rfl⟩, hwanted⟩
    exact ⟨t, ht, rfl, hwanted⟩
  · rintro ⟨t, ht, rfl, hwanted⟩
    exact ⟨⟨t, ht, rfl⟩, hwanted⟩

namespace BodyParsers

variable {parsers : BodyParsers} {essence key : String} {p : BodyParser}

/-- The key names just this type, and no range of types. -/
def NamesType (essence key : String) : Prop :=
  Text.contains '*' key = false ∧ (MediaType.read key).essence = essence

def Catches (essence key : String) : Prop :=
  Binary64.zero < (MediaType.read key).quality ∧
    (MediaType.read key).fits (MediaType.read essence) = true

instance : Decidable (NamesType essence key) := inferInstanceAs (Decidable (_ ∧ _))

instance : Decidable (Catches essence key) := inferInstanceAs (Decidable (_ ∧ _))

/-- The key by which a parser is chosen for a type, standing between other parsers: the last that
names the type, or if none does, the first of the foremost that catch it. -/
inductive Decides (essence : String) (before : BodyParsers) (key : String) (after : BodyParsers) :
    Prop
  | named (names : NamesType essence key) (last : ∀ e ∈ after, ¬NamesType essence e.1)
  | caught (unnamed : ∀ e ∈ before ++ after, ¬NamesType essence e.1) (own : ¬NamesType essence key)
      (catches : Catches essence key)
      (first : ∀ e ∈ before, Catches essence e.1 →
        (MediaType.read e.1).precedes (MediaType.read key) = false)
      (foremost : ∀ e ∈ after, Catches essence e.1 →
        (MediaType.read key).precedes (MediaType.read e.1) = true)

theorem namesType_iff : (!Text.contains '*' key && (MediaType.read key).essence == essence) = true ↔
    NamesType essence key := by
  rw [Bool.and_eq_true, Bool.not_eq_true', beq_iff_eq]
  rfl

/-- The parser registered for just this type is the last one whose key names it. -/
theorem forExactType?_eq_some_iff : parsers.forExactType? essence = some p ↔
    ∃ before key after, parsers = before ++ (key, p) :: after ∧ NamesType essence key ∧
      ∀ e ∈ after, ¬NamesType essence e.1 := by
  rw [forExactType?, Option.map_eq_some_iff]
  constructor
  · rintro ⟨⟨key, p⟩, hfind, rfl⟩
    obtain ⟨hkey, after, before, hreverse, hafter⟩ := List.find?_eq_some_iff_append.mp hfind
    refine ⟨before.reverse, key, after.reverse, ?_, namesType_iff.mp hkey, fun e he hnamed => ?_⟩
    · rw [← List.reverse_reverse parsers, hreverse, List.reverse_append, List.reverse_cons,
        List.append_assoc, List.singleton_append]
    · have hnot := hafter e (List.mem_reverse.mp he)
      rw [Bool.not_eq_true', Bool.eq_false_iff] at hnot
      exact hnot (namesType_iff.mpr hnamed)
  · rintro ⟨before, key, after, rfl, hkey, hafter⟩
    refine ⟨(key, p), List.find?_eq_some_iff_append.mpr ⟨namesType_iff.mpr hkey, after.reverse,
      before.reverse, ?_, fun e he => ?_⟩, rfl⟩
    · rw [List.reverse_append, List.reverse_cons, List.append_assoc, List.singleton_append]
    · rw [Bool.not_eq_true', Bool.eq_false_iff]
      exact fun hnamed => hafter e (List.mem_reverse.mp he) (namesType_iff.mp hnamed)

theorem forExactType?_eq_none_iff : parsers.forExactType? essence = none ↔
    ∀ e ∈ parsers, ¬NamesType essence e.1 := by
  rw [forExactType?, Option.map_eq_none_iff, List.find?_eq_none]
  exact forall_congr' fun e => by rw [List.mem_reverse, namesType_iff]

def wanted (parsers : BodyParsers) : BodyParsers :=
  parsers.filter fun e => decide (Binary64.zero < (MediaType.read e.1).quality)

theorem mem_wanted {e : String × BodyParser} :
    e ∈ parsers.wanted ↔ e ∈ parsers ∧ Binary64.zero < (MediaType.read e.1).quality := by
  rw [wanted, List.mem_filter, decide_eq_true_iff]

theorem wanted_append_cons {before after : BodyParsers}
    (h : Binary64.zero < (MediaType.read key).quality) :
    wanted (before ++ (key, p) :: after) = before.wanted ++ (key, p) :: after.wanted := by
  rw [wanted, List.filter_append]
  exact congrArg _ (List.filter_cons_of_pos (decide_eq_true h))

theorem byPrecedence_eq (parsers : BodyParsers) : parsers.byPrecedence =
    (parsers.wanted.map fun e => (MediaType.read e.1, e.2)).mergeSort
      fun e f => e.1.precedes f.1 := by
  rw [byPrecedence, List.filter_map]
  rfl

/-- What is found by precedence is the first of the foremost that catch the type. -/
theorem find?_byPrecedence_eq_some_iff {m : MediaType} :
    (parsers.byPrecedence.find? fun (n, _) => n.fits (MediaType.read essence)) = some (m, p) ↔
      ∃ before key after, parsers = before ++ (key, p) :: after ∧ MediaType.read key = m ∧
        Catches essence key ∧
        (∀ e ∈ before, Catches essence e.1 → (MediaType.read e.1).precedes m = false) ∧
        ∀ e ∈ after, Catches essence e.1 → m.precedes (MediaType.read e.1) = true := by
  have hmem : ∀ {part : BodyParsers} {e : String × BodyParser}, e ∈ part → Catches essence e.1 →
      (MediaType.read e.1, e.2) ∈ part.wanted.map fun e => (MediaType.read e.1, e.2) :=
    fun he hcatches => List.mem_map_of_mem (mem_wanted.mpr ⟨he, hcatches.1⟩)
  rw [byPrecedence_eq]
  refine (find?_mergeSort_eq_some_iff ?_ ?_).trans ⟨?_, ?_⟩
  · exact fun _ _ _ => MediaType.precedes_trans
  · exact fun e f => MediaType.precedes_total e.1 f.1
  · rintro ⟨before, after, hmap, hfits, hbefore, hafter⟩
    obtain ⟨lower, rear, hfilter, rfl, hrear⟩ := List.map_eq_append_iff.mp hmap
    obtain ⟨⟨key, q⟩, upper, rfl, hread, rfl⟩ := List.map_eq_cons_iff.mp hrear
    obtain ⟨front, rear, rfl, rfl, hrear⟩ := List.filter_eq_append_iff.mp hfilter
    obtain ⟨skipped, rear, rfl, hskipped, hwanted, rfl⟩ := List.filter_eq_cons_iff.mp hrear
    obtain ⟨rfl, rfl⟩ := Prod.mk.inj hread
    refine ⟨front ++ skipped, key, rear, (List.append_assoc ..).symm, rfl,
      ⟨of_decide_eq_true hwanted, hfits⟩, fun e he hcatches => ?_, fun e he hcatches => ?_⟩
    · rcases List.mem_append.mp he with he | he
      · exact hbefore (MediaType.read e.1, e.2) (hmem he hcatches) hcatches.2
      · exact absurd (decide_eq_true hcatches.1) (hskipped e he)
    · exact hafter (MediaType.read e.1, e.2) (hmem he hcatches) hcatches.2
  · rintro ⟨before, key, after, rfl, rfl, hcatches, hbefore, hafter⟩
    rw [wanted_append_cons hcatches.1, List.map_append, List.map_cons]
    refine ⟨_, _, rfl, hcatches.2, fun y hy hfits => ?_, fun y hy hfits => ?_⟩
    · obtain ⟨e, he, rfl⟩ := List.mem_map.mp hy
      obtain ⟨he, hwanted⟩ := mem_wanted.mp he
      exact hbefore e he ⟨hwanted, hfits⟩
    · obtain ⟨e, he, rfl⟩ := List.mem_map.mp hy
      obtain ⟨he, hwanted⟩ := mem_wanted.mp he
      exact hafter e he ⟨hwanted, hfits⟩

theorem forType?_eq_some_iff : parsers.forType? essence = some p ↔
    ∃ before key after, parsers = before ++ (key, p) :: after ∧
      Decides essence before key after := by
  unfold forType?
  cases hexact : parsers.forExactType? essence with
  | some q =>
    obtain ⟨before, key, after, hsplit, hnames, hlast⟩ := forExactType?_eq_some_iff.mp hexact
    constructor
    · intro h
      obtain rfl := Option.some.inj h
      exact ⟨before, key, after, hsplit, .named hnames hlast⟩
    · rintro ⟨before', key', after', hsplit', hdecides⟩
      cases hdecides with
      | named hnames' hlast' =>
        exact hexact.symm.trans (forExactType?_eq_some_iff.mpr
          ⟨before', key', after', hsplit', hnames', hlast'⟩)
      | caught hunnamed hown =>
        have hmem : (key, q) ∈ before' ++ (key', p) :: after' :=
          hsplit' ▸ hsplit ▸ List.mem_append_right _ List.mem_cons_self
        rcases List.mem_append.mp hmem with hmem | hmem
        · exact absurd hnames (hunnamed _ (List.mem_append_left _ hmem))
        · rcases List.mem_cons.mp hmem with he | hmem
          · cases he
            exact absurd hnames hown
          · exact absurd hnames (hunnamed _ (List.mem_append_right _ hmem))
  | none =>
    have hunnamed := forExactType?_eq_none_iff.mp hexact
    dsimp only
    rw [Option.map_eq_some_iff]
    constructor
    · rintro ⟨⟨m, q⟩, hfind, rfl⟩
      obtain ⟨before, key, after, rfl, rfl, hcatches, hbefore, hafter⟩ :=
        find?_byPrecedence_eq_some_iff.mp hfind
      refine ⟨before, key, after, rfl, .caught (fun e he => hunnamed e ?_)
        (hunnamed (key, q) (List.mem_append_right _ List.mem_cons_self)) hcatches hbefore hafter⟩
      rcases List.mem_append.mp he with he | he
      · exact List.mem_append_left _ he
      · exact List.mem_append_right _ (List.mem_cons_of_mem _ he)
    · rintro ⟨before, key, after, rfl, hdecides⟩
      cases hdecides with
      | named hnames =>
        exact absurd hnames (hunnamed (key, p) (List.mem_append_right _ List.mem_cons_self))
      | caught _ _ hcatches hbefore hafter =>
        exact ⟨(MediaType.read key, p), find?_byPrecedence_eq_some_iff.mpr
          ⟨before, key, after, rfl, rfl, hcatches, hbefore, hafter⟩, rfl⟩

theorem eq_of_unsupported_eq {other : String}
    (h : parsers.unsupported essence = parsers.unsupported other) : essence = other := by
  have htext := congrArg String.toList (Failure.unsupported.inj h)
  simp only [String.toList_append, List.append_assoc, List.append_cancel_left_eq,
    List.append_cancel_right_eq] at htext
  exact String.toList_inj.mp htext

theorem error_of_choose {r : Request} {failure : Failure} (nonempty : parsers ≠ [])
    (h : parsers.choose r = .error failure) :
    ∃ essence, r.contentType? = some essence ∧ failure = parsers.unsupported essence := by
  obtain ⟨⟨key, first⟩, rest, rfl⟩ := List.exists_cons_of_ne_nil nonempty
  unfold choose at h
  split at h
  · cases h
  · next essence hessence =>
    split at h
    · cases h
    · cases h
      exact ⟨essence, hessence, rfl⟩

end BodyParsers

namespace Renderers

variable {key : String} {first : Renderer} {rest renderers : Renderers} {r : Request}

theorem choose_of_unsaid (h : r.accept? = none) : choose ((key, first) :: rest) r = .ok first := by
  simp only [choose, default?, List.head?_cons, Option.map_some, h, Option.isNone_none,
    Option.filter_some, if_true]

theorem filter_default_of_said (said : r.accept?.isSome = true) :
    (renderers.default?.filter fun _ => r.accept?.isNone) = none := by
  obtain ⟨accept, haccept⟩ := Option.isSome_iff_exists.mp said
  rw [haccept]
  cases renderers.default? <;> rfl

theorem choose_of_preferred (said : r.accept?.isSome = true)
    (h : MediaType.preferred? r.acceptedTypes renderers.names = some key) :
    ∃ renderer, renderers.lookup key = some renderer ∧ renderers.choose r = .ok renderer := by
  cases hlookup : renderers.lookup key with
  | none => exact absurd (MediaType.mem_of_preferred h) (Named.lookup_eq_none_iff_not_mem.mp hlookup)
  | some renderer =>
    refine ⟨renderer, rfl, ?_⟩
    simp only [choose, filter_default_of_said said, h, Option.bind_some, hlookup]

theorem choose_of_unacceptable (said : r.accept?.isSome = true)
    (h : MediaType.preferred? r.acceptedTypes renderers.names = none) :
    ∃ failure, renderers.choose r = .error failure := by
  simp only [choose, filter_default_of_said said, h, Option.bind_none]
  exact ⟨_, rfl⟩

theorem notAcceptable_of_choose {failure : Failure} (said : r.accept?.isSome = true)
    (h : renderers.choose r = .error failure) : ∃ message, failure = .notAcceptable message := by
  simp only [choose, filter_default_of_said said] at h
  split at h
  · cases h
  · cases h
    exact ⟨_, rfl⟩

theorem exists_choose (nonempty : renderers ≠ []) (acceptable : r.accept? = none ∨
      ∃ range ∈ r.acceptedTypes, ∃ key ∈ renderers.names, (MediaType.read key).fits range = true) :
    ∃ renderer, renderers.choose r = .ok renderer := by
  by_cases said : r.accept? = none
  · obtain ⟨⟨key, first⟩, rest, rfl⟩ := List.exists_cons_of_ne_nil nonempty
    exact ⟨first, choose_of_unsaid said⟩
  · obtain ⟨range, hrange, key, hkey, hfits⟩ := acceptable.resolve_left said
    obtain ⟨chosen, hpreferred⟩ := MediaType.exists_preferred hrange hkey hfits
    obtain ⟨renderer, -, hchoose⟩ :=
      choose_of_preferred (Option.isSome_iff_ne_none.mpr said) hpreferred
    exact ⟨renderer, hchoose⟩

theorem error_of_choose {failure : Failure} (nonempty : renderers ≠ [])
    (h : renderers.choose r = .error failure) :
    r.accept?.isSome = true ∧ ∃ message, failure = .notAcceptable message := by
  obtain ⟨⟨key, first⟩, rest, rfl⟩ := List.exists_cons_of_ne_nil nonempty
  cases haccept : r.accept? with
  | none =>
    rw [choose_of_unsaid haccept] at h
    cases h
  | some accept =>
    have said : r.accept?.isSome = true := by rw [haccept, Option.isSome_some]
    exact ⟨rfl, notAcceptable_of_choose said h⟩

end Renderers

end Accord
