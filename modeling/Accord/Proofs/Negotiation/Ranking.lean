import Accord.Proofs.Negotiation.Rereading
import Mathlib.Data.Prod.Lex

namespace Accord

namespace MediaType

variable {m n : MediaType}

/-- What counts for precedence: how specific a type is, and then how much it is wanted. -/
def Rank : Type := Nat ×ₗ Int

instance : LinearOrder Rank :=
  @Prod.Lex.instLinearOrder Nat Int Nat.instLinearOrder Int.instLinearOrder

def rank (m : MediaType) : Rank := toLex (m.specificity, m.quality.signed)

theorem precedes_iff_rank_le : m.precedes n = true ↔ n.rank ≤ m.rank := by
  refine precedes_iff.trans (Iff.trans ?_ Prod.Lex.toLex_le_toLex.symm)
  exact or_congr_right (and_congr_left fun _ => eq_comm)

theorem precedes_eq_false_iff : m.precedes n = false ↔ m.rank < n.rank := by
  rw [← Bool.not_eq_true, precedes_iff_rank_le, not_le]

end MediaType

namespace BodyParsers

open MediaType

variable {parsers shuffled : BodyParsers} {request : Request} {essence raw key : String}
  {p : BodyParser}

/-- The key catches the type, and no key that catches it ranks higher. -/
structure Leads (parsers : BodyParsers) (essence key : String) : Prop where
  catches : Catches essence key
  highest : ∀ other ∈ parsers.names, Catches essence other → (read other).rank ≤ (read key).rank

theorem mem_names {e : String × BodyParser} (h : e ∈ parsers) : e.1 ∈ parsers.names :=
  List.mem_map_of_mem h

theorem decides_iff_leads {before after : BodyParsers}
    (split : parsers = before ++ (key, p) :: after)
    (unnamed : ∀ other ∈ parsers.names, ¬NamesType essence other) :
    Decides essence before key after ↔ parsers.Leads essence key ∧
      ∀ e ∈ before, Catches essence e.1 → (read e.1).rank < (read key).rank := by
  have hnot : ∀ e ∈ parsers, ¬NamesType essence e.1 := fun e he => unnamed e.1 (mem_names he)
  subst split
  have hnames : ∀ other, other ∈ Named.names (before ++ (key, p) :: after) ↔
      (∃ e ∈ before, e.1 = other) ∨ other = key ∨ ∃ e ∈ after, e.1 = other := by
    intro other
    simp only [Named.names, List.map_append, List.map_cons, List.mem_append, List.mem_cons,
      List.mem_map]
  constructor
  · rintro (⟨names, -⟩ | ⟨-, -, catches, first, foremost⟩)
    · exact absurd names (hnot _ (List.mem_append_right _ List.mem_cons_self))
    have hfirst : ∀ e ∈ before, Catches essence e.1 → (read e.1).rank < (read key).rank :=
      fun e he hcatches => precedes_eq_false_iff.mp (first e he hcatches)
    refine ⟨⟨catches, fun other hother hcatches => ?_⟩, hfirst⟩
    rcases (hnames other).mp hother with ⟨e, he, rfl⟩ | rfl | ⟨e, he, rfl⟩
    · exact (hfirst e he hcatches).le
    · exact le_rfl
    · exact precedes_iff_rank_le.mp (foremost e he hcatches)
  · rintro ⟨⟨catches, highest⟩, first⟩
    refine .caught (fun e he => hnot e ?_) (hnot _ (List.mem_append_right _ List.mem_cons_self))
      catches (fun e he hcatches => precedes_eq_false_iff.mpr (first e he hcatches))
      fun e he hcatches => precedes_iff_rank_le.mpr (highest e.1 ?_ hcatches)
    · exact (List.mem_append.mp he).elim (List.mem_append_left _)
        fun he => List.mem_append_right _ (List.mem_cons_of_mem _ he)
    · exact (hnames e.1).mpr (.inr (.inr ⟨e, he, rfl⟩))

theorem forType?_eq_none_iff : parsers.forType? essence = none ↔
    ∀ key ∈ parsers.names, ¬NamesType essence key ∧ ¬Catches essence key := by
  have hcaught : ∀ e : MediaType × BodyParser, e ∈ parsers.byPrecedence ↔
      ∃ f ∈ parsers, Binary64.zero < (read f.1).quality ∧ (read f.1, f.2) = e := by
    intro e
    simp only [byPrecedence_eq, List.mem_mergeSort, List.mem_map, mem_wanted, and_assoc]
  constructor
  · intro h key hkey
    obtain ⟨f, hf, rfl⟩ := List.mem_map.mp hkey
    unfold forType? at h
    split at h
    · cases h
    next hexact =>
      refine ⟨forExactType?_eq_none_iff.mp hexact f hf, fun hcatches => ?_⟩
      have hsearch := List.find?_eq_none.mp (Option.map_eq_none_iff.mp h)
      exact hsearch _ ((hcaught _).mpr ⟨f, hf, hcatches.1, rfl⟩) hcatches.2
  · intro h
    have hexact : parsers.forExactType? essence = none :=
      forExactType?_eq_none_iff.mpr fun e he => (h e.1 (mem_names he)).1
    rw [forType?, hexact]
    refine Option.map_eq_none_iff.mpr (List.find?_eq_none.mpr fun e he hfits => ?_)
    obtain ⟨f, hf, hwanted, rfl⟩ := (hcaught e).mp he
    exact (h f.1 (mem_names hf)).2 ⟨hwanted, hfits⟩

theorem forType?_of_named
    (distinct : (parsers.map fun e => (read e.1).essence).Nodup) (mem : (key, p) ∈ parsers)
    (names : NamesType essence key) : parsers.forType? essence = some p := by
  obtain ⟨before, after, rfl⟩ := List.append_of_mem mem
  refine forType?_eq_some_iff.mpr ⟨before, key, after, rfl, .named names fun e he hnames => ?_⟩
  rw [List.map_append, List.map_cons] at distinct
  refine (List.nodup_cons.mp (List.nodup_append.mp distinct).2.1).1 (List.mem_map.mpr ⟨e, he, ?_⟩)
  exact hnames.2.trans names.2.symm

theorem forType?_of_unnamed (unnamed : ∀ other ∈ parsers.names, ¬NamesType essence other) :
    parsers.forType? essence = some p ↔ ∃ before key after, parsers = before ++ (key, p) :: after ∧
      parsers.Leads essence key ∧
        ∀ e ∈ before, Catches essence e.1 → (read e.1).rank < (read key).rank := by
  rw [forType?_eq_some_iff]
  refine exists_congr fun before => exists_congr fun key => exists_congr fun after => ?_
  exact and_congr_right fun split => decides_iff_leads split unnamed

theorem Leads.of_perm (leads : parsers.Leads essence key) (perm : shuffled.Perm parsers) :
    shuffled.Leads essence key :=
  ⟨leads.catches, fun other hother => leads.highest other ((perm.map Prod.fst).mem_iff.mp hother)⟩

theorem Leads.rank_eq {other : String} (leads : parsers.Leads essence key)
    (others : parsers.Leads essence other) (mem : key ∈ parsers.names)
    (also : other ∈ parsers.names) : (read key).rank = (read other).rank :=
  le_antisymm (others.highest key mem leads.catches) (leads.highest other also others.catches)

/-- The choice of a parser for a request of this type: by the key that names the type, else by the
first of the leading keys; and no choice where no key names or catches the type. -/
structure ChoosesByRank (parsers : BodyParsers) (request : Request) (essence : String) : Prop where
  named : ∀ key p, (key, p) ∈ parsers → NamesType essence key → parsers.choose request = .ok p
  ranked : (∀ key ∈ parsers.names, ¬NamesType essence key) → ∀ p,
    parsers.choose request = .ok p ↔ ∃ before key after, parsers = before ++ (key, p) :: after ∧
      parsers.Leads essence key ∧
        ∀ e ∈ before, Catches essence e.1 → (read e.1).rank < (read key).rank
  refused : (∃ failure, parsers.choose request = .error failure) ↔
    ∀ key ∈ parsers.names, ¬NamesType essence key ∧ ¬Catches essence key
  told : ∀ failure, parsers.choose request = .error failure → failure = parsers.unsupported essence

theorem error_of_choose_of_typed {failure : Failure} (typed : request.contentType? = some essence) :
    parsers.choose request = .error failure ↔
      parsers.forType? essence = none ∧ failure = parsers.unsupported essence := by
  rw [choose, typed]
  dsimp only
  cases parsers.forType? essence with
  | none => exact ⟨fun h => ⟨rfl, (Except.error.inj h).symm⟩, fun h => congrArg _ h.2.symm⟩
  | some q =>
    constructor
    · intro h
      cases h
    · rintro ⟨h, -⟩
      cases h

theorem choosesByRank (distinct : (parsers.map fun e => (read e.1).essence).Nodup)
    (typed : request.contentType? = some essence) : parsers.ChoosesByRank request essence where
  named := fun _ _ mem names => (choose_of_typed typed).mpr (forType?_of_named distinct mem names)
  ranked := fun unnamed _ => (choose_of_typed typed).trans (forType?_of_unnamed unnamed)
  refused := by
    rw [← forType?_eq_none_iff]
    constructor
    · rintro ⟨failure, hfailure⟩
      exact ((error_of_choose_of_typed typed).mp hfailure).1
    · exact fun hnone => ⟨_, (error_of_choose_of_typed typed).mpr ⟨hnone, rfl⟩⟩
  told := fun _ hfailure => ((error_of_choose_of_typed typed).mp hfailure).2

/-- Of keys that read as different types, a parser is chosen by rank; if the keys are registered in
another order, the same parser is chosen where a key names the type, and else one under a key of the same
rank. -/
theorem chosen_by_rank (distinct : (parsers.map fun e => (read e.1).essence).Nodup)
    (typed : request.header? "content-type" = some raw) (said : (Text.trim raw).isEmpty = false) :
    parsers.ChoosesByRank request (read raw).essence ∧
      ∀ shuffled : BodyParsers, shuffled.Perm parsers →
        (∀ key p, (key, p) ∈ parsers → NamesType (read raw).essence key →
          shuffled.choose request = .ok p) ∧
        ((∀ key ∈ parsers.names, ¬NamesType (read raw).essence key) →
          ∀ p, parsers.choose request = .ok p → ∃ key q key', (key, p) ∈ parsers ∧
            parsers.Leads (read raw).essence key ∧ shuffled.choose request = .ok q ∧
            (key', q) ∈ shuffled ∧ shuffled.Leads (read raw).essence key' ∧
            (read key').rank = (read key).rank) := by
  have hessence := contentType?_of_said typed said
  have chosen := choosesByRank distinct hessence
  refine ⟨chosen, fun shuffled perm => ?_⟩
  have hdistinct : (shuffled.map fun e => (read e.1).essence).Nodup :=
    (perm.map _).nodup_iff.mpr distinct
  have rechosen := choosesByRank hdistinct hessence
  have hnames : ∀ other, other ∈ shuffled.names ↔ other ∈ parsers.names :=
    fun _ => (perm.map Prod.fst).mem_iff
  refine ⟨fun key p mem names => rechosen.named key p (perm.mem_iff.mpr mem) names, ?_⟩
  intro unnamed p hp
  obtain ⟨before, key, after, hsplit, leads, -⟩ := (chosen.ranked unnamed p).mp hp
  have hkey : (key, p) ∈ parsers := hsplit ▸ List.mem_append_right before List.mem_cons_self
  have hleads := leads.of_perm perm
  cases hq : shuffled.choose request with
  | error failure =>
    have hnone := rechosen.refused.mp ⟨failure, hq⟩ key ((hnames key).mpr (mem_names hkey))
    exact absurd leads.catches hnone.2
  | ok q =>
    have hunnamed : ∀ other ∈ shuffled.names, ¬NamesType (read raw).essence other :=
      fun other hother => unnamed other ((hnames other).mp hother)
    obtain ⟨before', key', after', hsplit', leads', -⟩ := (rechosen.ranked hunnamed q).mp hq
    have hkey' : (key', q) ∈ shuffled := hsplit' ▸ List.mem_append_right before' List.mem_cons_self
    exact ⟨key, q, key', hkey, leads, rfl, hkey', leads',
      leads'.rank_eq hleads (mem_names hkey') ((hnames key).mpr (mem_names hkey))⟩

def ranges : BodyParsers :=
  [("*/*", textOf "*/*"), ("application/json", .json), ("*/plain", textOf "*/plain")]

def rangesBackwards : BodyParsers := ranges.reverse

theorem note_chosen_by_rank :
    ranges.choose (noteOf "Text/Plain; charset=utf-8") = .ok (textOf "*/*") ∧
      ∃ key q, (key, q) ∈ rangesBackwards ∧
        rangesBackwards.choose (noteOf "Text/Plain; charset=utf-8") = .ok q ∧
        (read key).rank = (read "*/*").rank := by
  have htyped : (noteOf "Text/Plain; charset=utf-8").header? "content-type" =
    some "Text/Plain; charset=utf-8" := by decide +kernel
  have hsaid : (Text.trim "Text/Plain; charset=utf-8").isEmpty = false := by decide +kernel
  have hdistinct : (ranges.map fun e => (read e.1).essence).Nodup := by decide +kernel
  have hunnamed : ∀ key ∈ ranges.names,
      ¬NamesType (read "Text/Plain; charset=utf-8").essence key := by decide +kernel
  have hleads : ranges.Leads (read "Text/Plain; charset=utf-8").essence "*/*" :=
    ⟨by decide +kernel, by decide +kernel⟩
  obtain ⟨hchosen, hshuffled⟩ := chosen_by_rank hdistinct htyped hsaid
  have hchoose : ranges.choose (noteOf "Text/Plain; charset=utf-8") = .ok (textOf "*/*") :=
    (hchosen.ranked hunnamed _).mpr ⟨[], "*/*", _, rfl, hleads, fun _ he => (nomatch he)⟩
  obtain ⟨key, q, key', hkey, leads, hq, hkey', -, hrank⟩ :=
    (hshuffled rangesBackwards (List.reverse_perm ranges)).2 hunnamed _ hchoose
  exact ⟨hchoose, key', q, hkey', hq, hrank.trans
    (leads.rank_eq hleads (mem_names hkey) (by decide +kernel))⟩

end BodyParsers

end Accord
