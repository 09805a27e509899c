import Accord.Proofs.Negotiation.Excluding
import Accord.Proofs.Negotiation.Ranking
import Mathlib.Data.List.MinMax

namespace Accord

namespace MediaType

variable {ranges ranges' : List MediaType} {range : MediaType} {key : String}
  {keys before after : List String} {bound : Rank}

/-- The rank of the highest range that the key falls into, if there is one. -/
def bestRank (ranges : List MediaType) (key : String) : WithBot Rank :=
  ((ranges.filter fun range => (read key).fits range).map rank).maximum

/-- The place of the first range of that rank that the key falls into. -/
def bestPlace (ranges : List MediaType) (key : String) : Nat :=
  ranges.findIdx fun range =>
    (read key).fits range && decide ((range.rank : WithBot Rank) = bestRank ranges key)

/-- A key between other keys goes before them all: it falls into a range, and no other key is better; of
equally good keys, none falls into such a range earlier, and those in front of it fall into one later. -/
structure Preferred (ranges : List MediaType) (before : List String) (key : String)
    (after : List String) : Prop where
  accepted : bestRank ranges key ≠ ⊥
  best : ∀ other ∈ before ++ after, bestRank ranges other ≤ bestRank ranges key
  first : ∀ other ∈ before, bestRank ranges other = bestRank ranges key →
    bestPlace ranges key < bestPlace ranges other
  foremost : ∀ other ∈ after, bestRank ranges other = bestRank ranges key →
    bestPlace ranges key ≤ bestPlace ranges other

theorem bestRank_eq_bot_iff :
    bestRank ranges key = ⊥ ↔ ∀ range ∈ ranges, ¬(read key).fits range = true := by
  rw [bestRank, List.maximum_eq_bot, List.map_eq_nil_iff, List.filter_eq_nil_iff]

theorem bestRank_le_iff : bestRank ranges key ≤ bound ↔
    ∀ range ∈ ranges, (read key).fits range = true → range.rank ≤ bound := by
  constructor
  · intro h range hrange hfits
    refine WithBot.coe_le_coe.mp (le_trans (List.le_maximum_of_mem' ?_) h)
    exact List.mem_map_of_mem (List.mem_filter.mpr ⟨hrange, hfits⟩)
  · intro h
    refine List.maximum_le_of_forall_le fun rank hrank => ?_
    obtain ⟨range, hrange, rfl⟩ := List.mem_map.mp hrank
    obtain ⟨hmem, hfits⟩ := List.mem_filter.mp hrange
    exact WithBot.coe_le_coe.mpr (h range hmem hfits)

theorem bestRank_eq (hrange : range ∈ ranges) (hfits : (read key).fits range = true)
    (highest : ∀ other ∈ ranges, (read key).fits other = true → other.rank ≤ range.rank) :
    bestRank ranges key = range.rank := by
  refine le_antisymm (bestRank_le_iff.mpr highest) (List.le_maximum_of_mem' ?_)
  exact List.mem_map_of_mem (List.mem_filter.mpr ⟨hrange, hfits⟩)

theorem bestPlace_append {front back : List MediaType}
    (hbest : bestRank (front ++ range :: back) key = range.rank)
    (hfront : ∀ r ∈ front, (read key).fits r = true → r.rank < range.rank) :
    bestPlace (front ++ range :: back) key = (range :: back).findIdx (fun r =>
      (read key).fits r && decide ((r.rank : WithBot Rank) = range.rank)) + front.length := by
  have hnone : front.findIdx (fun r => (read key).fits r &&
      decide ((r.rank : WithBot Rank) = range.rank)) = front.length := by
    refine List.findIdx_eq_length_of_false fun r hr => Bool.and_eq_false_imp.mpr fun hfits => ?_
    exact decide_eq_false (WithBot.coe_lt_coe.mpr (hfront r hr hfits)).ne
  rw [bestPlace, hbest, List.findIdx_append, hnone, if_neg (lt_irrefl _)]

theorem bestPlace_eq {front back : List MediaType} (hfits : (read key).fits range = true)
    (hbest : bestRank (front ++ range :: back) key = range.rank)
    (hfront : ∀ r ∈ front, (read key).fits r = true → r.rank < range.rank) :
    bestPlace (front ++ range :: back) key = front.length := by
  rw [bestPlace_append hbest hfront, List.findIdx_cons, hfits, decide_eq_true rfl]
  exact Nat.zero_add _

theorem lt_bestPlace {front back : List MediaType} (hunfit : ¬(read key).fits range = true)
    (hbest : bestRank (front ++ range :: back) key = range.rank)
    (hfront : ∀ r ∈ front, (read key).fits r = true → r.rank < range.rank) :
    front.length < bestPlace (front ++ range :: back) key := by
  rw [bestPlace_append hbest hfront, List.findIdx_cons, Bool.eq_false_of_not_eq_true hunfit,
    Bool.false_and, cond_false]
  omega

/-- The preferred key is the first that falls into the foremost range into which any key falls. -/
theorem preferred?_eq_some_iff : preferred? ranges keys = some key ↔ ∃ range,
    (ranges.find? fun r => keys.any fun k => (read k).fits r) = some range ∧
      (keys.find? fun k => (read k).fits range) = some key := by
  rw [preferred?, List.findSome?_eq_some_iff]
  constructor
  · rintro ⟨front, range, back, rfl, hkey, hfront⟩
    have hfits := List.find?_some hkey
    refine ⟨range, List.find?_eq_some_iff_append.mpr ⟨?_, front, back, rfl, fun r hr => ?_⟩, hkey⟩
    · exact List.any_eq_true.mpr ⟨key, List.mem_of_find?_eq_some hkey, hfits⟩
    · rw [Bool.not_eq_true', List.any_eq_false]
      exact List.find?_eq_none.mp (hfront r hr)
  · rintro ⟨range, hrange, hkey⟩
    obtain ⟨-, front, back, rfl, hfront⟩ := List.find?_eq_some_iff_append.mp hrange
    refine ⟨front, range, back, rfl, hkey, fun r hr => List.find?_eq_none.mpr ?_⟩
    have hnot := hfront r hr
    rwa [Bool.not_eq_true', List.any_eq_false] at hnot

theorem find?_byRank_eq_some_iff {found : MediaType → Bool} :
    (ranges.mergeSort precedes).find? found = some range ↔ ∃ front back,
      ranges = front ++ range :: back ∧ found range = true ∧
        (∀ r ∈ front, found r = true → r.rank < range.rank) ∧
        ∀ r ∈ back, found r = true → r.rank ≤ range.rank := by
  refine (find?_mergeSort_eq_some_iff ?_ precedes_total).trans ?_
  · exact fun _ _ _ => precedes_trans
  · simp only [precedes_eq_false_iff, precedes_iff_rank_le]

theorem preferred_of_foremost {front back : List MediaType} (hfits : (read key).fits range = true)
    (hbefore : ∀ other ∈ before, ¬(read other).fits range = true)
    (hfront : ∀ other ∈ before ++ key :: after, ∀ r ∈ front, (read other).fits r = true →
      r.rank < range.rank)
    (hback : ∀ other ∈ before ++ key :: after, ∀ r ∈ back, (read other).fits r = true →
      r.rank ≤ range.rank) : Preferred (front ++ range :: back) before key after := by
  have hhighest : ∀ other ∈ before ++ key :: after, ∀ r ∈ front ++ range :: back,
      (read other).fits r = true → r.rank ≤ range.rank := by
    intro other hother r hr hfit
    rcases List.mem_append.mp hr with hr | hr
    · exact (hfront other hother r hr hfit).le
    rcases List.mem_cons.mp hr with rfl | hr
    · exact le_rfl
    · exact hback other hother r hr hfit
  have hown : key ∈ before ++ key :: after := List.mem_append_right _ List.mem_cons_self
  have hothers : before ++ after ⊆ before ++ key :: after :=
    ((List.sublist_cons_self key after).append_left before).subset
  have hbest : bestRank (front ++ range :: back) key = range.rank :=
    bestRank_eq (List.mem_append_right _ List.mem_cons_self) hfits (hhighest key hown)
  have hplace : bestPlace (front ++ range :: back) key = front.length :=
    bestPlace_eq hfits hbest (hfront key hown)
  refine ⟨?_, fun other hother => ?_, fun other hother hequal => ?_, fun other hother hequal => ?_⟩
  · rw [hbest]
    exact WithBot.coe_ne_bot
  · rw [hbest]
    exact bestRank_le_iff.mpr (hhighest other (hothers hother))
  · have hmem := hothers (List.mem_append_left _ hother)
    rw [hplace]
    exact lt_bestPlace (hbefore other hother) (hequal.trans hbest) (hfront other hmem)
  · have hmem := hothers (List.mem_append_right _ hother)
    rw [hplace]
    by_cases hfit : (read other).fits range = true
    · exact (bestPlace_eq hfit (hequal.trans hbest) (hfront other hmem)).ge
    · exact (lt_bestPlace hfit (hequal.trans hbest) (hfront other hmem)).le

theorem preferred_of_preferred? (h : preferred? (ranges.mergeSort precedes) keys = some key) :
    ∃ before after, keys = before ++ key :: after ∧ Preferred ranges before key after := by
  obtain ⟨range, hrange, hkey⟩ := preferred?_eq_some_iff.mp h
  obtain ⟨hfits, before, after, rfl, hbefore⟩ := List.find?_eq_some_iff_append.mp hkey
  obtain ⟨front, back, rfl, -, hfront, hback⟩ := find?_byRank_eq_some_iff.mp hrange
  have hany : ∀ {other r}, other ∈ before ++ key :: after → (read other).fits r = true →
      ((before ++ key :: after).any fun k => (read k).fits r) = true :=
    fun hother hr => List.any_eq_true.mpr ⟨_, hother, hr⟩
  refine ⟨before, after, rfl, preferred_of_foremost hfits (fun other hother => ?_)
    (fun other hother r hr hfit => hfront r hr (hany hother hfit))
    fun other hother r hr hfit => hback r hr (hany hother hfit)⟩
  simpa using hbefore other hother

theorem Preferred.not_before (h : Preferred ranges before key after) {other : String}
    {before' after' : List String} (h' : Preferred ranges before' other after')
    (hother : other ∈ after) (hkey : key ∈ before') : False := by
  have hrank : bestRank ranges other = bestRank ranges key :=
    le_antisymm (h.best other (List.mem_append_right _ hother))
      (h'.best key (List.mem_append_left _ hkey))
  exact absurd (h'.first key hkey hrank.symm) (h.foremost other hother hrank).not_gt

theorem Preferred.unique {other : String} {before' after' : List String}
    (h : Preferred ranges before key after) (h' : Preferred ranges before' other after')
    (hkeys : before ++ key :: after = before' ++ other :: after') : key = other := by
  rcases List.append_eq_append_iff.mp hkeys with ⟨between, rfl, hrest⟩ | ⟨between, rfl, hrest⟩
  · cases between with
    | nil => exact (List.cons.inj hrest).1
    | cons first between =>
      obtain ⟨rfl, rfl⟩ := List.cons.inj hrest
      exact (h.not_before h' (List.mem_append_right _ List.mem_cons_self)
        (List.mem_append_right _ List.mem_cons_self)).elim
  · cases between with
    | nil => exact (List.cons.inj hrest).1.symm
    | cons first between =>
      obtain ⟨rfl, rfl⟩ := List.cons.inj hrest
      exact (h'.not_before h (List.mem_append_right _ List.mem_cons_self)
        (List.mem_append_right _ List.mem_cons_self)).elim

theorem preferred?_mergeSort_eq_some_iff :
    preferred? (ranges.mergeSort precedes) keys = some key ↔
      ∃ before after, keys = before ++ key :: after ∧ Preferred ranges before key after := by
  refine ⟨preferred_of_preferred?, ?_⟩
  rintro ⟨before, after, rfl, preferred⟩
  obtain ⟨range, hrange, hfits⟩ : ∃ range ∈ ranges, (read key).fits range = true := by
    by_contra hnone
    push Not at hnone
    exact preferred.accepted (bestRank_eq_bot_iff.mpr hnone)
  obtain ⟨chosen, hchosen⟩ := exists_preferred (List.mem_mergeSort.mpr hrange)
    (List.mem_append_right before List.mem_cons_self) hfits
  obtain ⟨before', after', hkeys, preferred'⟩ := preferred_of_preferred? hchosen
  rw [hchosen, preferred.unique preferred' hkeys]

def ofRank (rank : Rank) (ranges : List MediaType) : List MediaType :=
  ranges.filter fun m => decide (m.rank = rank)

theorem mem_ofRank {m : MediaType} {rank : Rank} :
    m ∈ ofRank rank ranges ↔ m ∈ ranges ∧ m.rank = rank := by
  rw [ofRank, List.mem_filter, decide_eq_true_iff]

theorem ofRank_cons (m : MediaType) (rank : Rank) (ranges : List MediaType) :
    ofRank rank (m :: ranges) = if m.rank = rank then m :: ofRank rank ranges
      else ofRank rank ranges := by
  by_cases h : m.rank = rank <;> simp [ofRank, h]

theorem ofRank_mergeSort (rank : Rank) (ranges : List MediaType) :
    ofRank rank (ranges.mergeSort precedes) = ofRank rank ranges := by
  have hties : (ofRank rank ranges).Pairwise fun m n => m.precedes n = true := by
    refine List.pairwise_of_forall_mem_list fun m hm n hn => precedes_iff_rank_le.mpr ?_
    exact ((mem_ofRank.mp hn).2.trans (mem_ofRank.mp hm).2.symm).le
  have hsub : (ofRank rank ranges).Sublist (ranges.mergeSort precedes) := by
    refine List.sublist_mergeSort ?_ precedes_total hties List.filter_sublist
    exact fun _ _ _ => precedes_trans
  have hkept : ofRank rank (ofRank rank ranges) = ofRank rank ranges := by simp [ofRank]
  have hrank : (ofRank rank ranges).Sublist (ofRank rank (ranges.mergeSort precedes)) :=
    hkept ▸ hsub.filter _
  exact (hrank.eq_of_length_le ((List.mergeSort_perm ranges precedes).filter _).length_eq.le).symm

theorem mem_iff_of_ofRank_eq {m : MediaType}
    (h : ∀ rank, ofRank rank ranges' = ofRank rank ranges) : m ∈ ranges' ↔ m ∈ ranges := by
  have hm : m ∈ ofRank m.rank ranges' ↔ m ∈ ofRank m.rank ranges := by rw [h]
  simpa only [mem_ofRank, and_true] using hm

/-- What is in order is known by what there is of each rank. -/
theorem eq_of_ofRank_eq (ordered : ranges.Pairwise fun m n => m.precedes n = true)
    (ordered' : ranges'.Pairwise fun m n => m.precedes n = true)
    (h : ∀ rank, ofRank rank ranges' = ofRank rank ranges) : ranges' = ranges := by
  induction ranges generalizing ranges' with
  | nil =>
    exact List.eq_nil_iff_forall_not_mem.mpr fun m hm => nomatch (mem_iff_of_ofRank_eq h).mp hm
  | cons first rest ih =>
    obtain ⟨first', rest', rfl⟩ := List.exists_cons_of_ne_nil
      (List.ne_nil_of_mem ((mem_iff_of_ofRank_eq h).mpr List.mem_cons_self))
    obtain ⟨hfirst, hrest⟩ := List.pairwise_cons.mp ordered
    obtain ⟨hfirst', hrest'⟩ := List.pairwise_cons.mp ordered'
    have hle : first'.rank ≤ first.rank := by
      rcases List.mem_cons.mp ((mem_iff_of_ofRank_eq h).mp List.mem_cons_self) with rfl | hm
      · exact le_rfl
      · exact precedes_iff_rank_le.mp (hfirst first' hm)
    have hge : first.rank ≤ first'.rank := by
      rcases List.mem_cons.mp ((mem_iff_of_ofRank_eq h).mpr List.mem_cons_self) with rfl | hm
      · exact le_rfl
      · exact precedes_iff_rank_le.mp (hfirst' first hm)
    have hequal : first' = first := by
      have hrank := h first.rank
      rw [ofRank_cons, ofRank_cons, if_pos (le_antisymm hle hge), if_pos rfl] at hrank
      exact (List.cons.inj hrank).1
    subst hequal
    have htails : ∀ rank, ofRank rank rest' = ofRank rank rest := by
      intro rank
      have hrank := h rank
      rw [ofRank_cons, ofRank_cons] at hrank
      split at hrank
      · exact (List.cons.inj hrank).2
      · exact hrank
    rw [ih hrest hrest' htails]

theorem mergeSort_eq_of_ofRank_eq (h : ∀ rank, ofRank rank ranges' = ofRank rank ranges) :
    ranges'.mergeSort precedes = ranges.mergeSort precedes := by
  have hordered : ∀ types : List MediaType, (types.mergeSort precedes).Pairwise fun m n =>
      m.precedes n = true :=
    List.pairwise_mergeSort (fun _ _ _ => precedes_trans) precedes_total
  refine eq_of_ofRank_eq (hordered ranges) (hordered ranges') fun rank => ?_
  rw [ofRank_mergeSort, ofRank_mergeSort, h]

theorem ofRank_eq_of_perm (perm : ranges'.Perm ranges) (apart : (ranges.map rank).Nodup)
    (rank : Rank) : ofRank rank ranges' = ofRank rank ranges := by
  have hone : ∀ m n, m ∈ ofRank rank ranges' → n ∈ ofRank rank ranges → m = n := by
    intro m n hm hn
    obtain ⟨hm, hmrank⟩ := mem_ofRank.mp hm
    obtain ⟨hn, hnrank⟩ := mem_ofRank.mp hn
    exact List.inj_on_of_nodup_map apart (perm.mem_iff.mp hm) hn (hmrank.trans hnrank.symm)
  exact (perm.filter _).eq_of_pairwise (fun m n hm hn _ _ => hone m n hm hn)
    (List.pairwise_of_forall fun _ _ => trivial) (List.pairwise_of_forall fun _ _ => trivial)

theorem find?_eq_some_iff_of_alone {α : Type} {found : α → Bool} {l : List α} {a : α}
    (alone : ∀ a ∈ l, ∀ b ∈ l, found a = true → found b = true → a = b) :
    l.find? found = some a ↔ a ∈ l ∧ found a = true := by
  refine ⟨fun h => ⟨List.mem_of_find?_eq_some h, List.find?_some h⟩, fun ⟨hmem, hfound⟩ => ?_⟩
  obtain ⟨b, hb⟩ := Option.isSome_iff_exists.mp (List.find?_isSome.mpr ⟨a, hmem, hfound⟩)
  rw [hb, alone b (List.mem_of_find?_eq_some hb) a hmem (List.find?_some hb) hfound]

theorem preferred?_of_perm {shuffled : List String} (perm : shuffled.Perm keys)
    (alone : ∀ range ∈ ranges, ∀ key ∈ keys, ∀ other ∈ keys, (read key).fits range = true →
      (read other).fits range = true → key = other) :
    preferred? ranges shuffled = preferred? ranges keys := by
  refine Option.ext fun key => ?_
  rw [preferred?_eq_some_iff, preferred?_eq_some_iff]
  refine exists_congr fun range => ?_
  simp only [perm.any_eq]
  refine and_congr_right fun hrange => ?_
  have hone := alone range (List.mem_of_find?_eq_some hrange)
  rw [find?_eq_some_iff_of_alone hone, find?_eq_some_iff_of_alone fun key hkey other hother =>
    hone key (perm.mem_iff.mp hkey) other (perm.mem_iff.mp hother), perm.mem_iff]

end MediaType

namespace Request

open MediaType

variable {r other : Request}

def wantedEntries (r : Request) : List MediaType :=
  r.acceptEntries.filter fun m => decide (Binary64.zero < m.quality)

theorem acceptedTypes_eq (r : Request) : r.acceptedTypes = r.wantedEntries.mergeSort precedes := rfl

def acceptLines (r : Request) : List String :=
  (r.headers.getAll "accept").filterMap Message.visibleText?

def entriesOf (line : String) : List MediaType :=
  ((Text.split ',' line).filter fun entry => !(Text.trim entry).isEmpty).map MediaType.read

theorem entriesOf_append (line rest : String) :
    entriesOf (line ++ "," ++ rest) = entriesOf line ++ entriesOf rest := by
  have hchars : (line ++ "," ++ rest).toList = line.toList ++ ',' :: rest.toList := by
    simp
  simp only [entriesOf, Text.split, hchars, Text.splitChars_append_cons, List.map_append,
    List.filter_append]

theorem acceptEntries_eq (r : Request) : r.acceptEntries = r.acceptLines.flatMap entriesOf := by
  change entriesOf (Text.join "," r.acceptLines) = _
  induction r.acceptLines with
  | nil => decide
  | cons line rest ih =>
    cases rest with
    | nil => rw [List.flatMap_singleton]; rfl
    | cons next rest =>
      rw [Text.join, String.intercalate_cons_cons, entriesOf_append, List.flatMap_cons, ← ih]
      rfl

end Request

namespace Renderers

open MediaType

variable {renderers shuffled : Renderers} {renderer : Renderer} {r other : Request}

/-- The choice of a renderer: the one whose key goes before all others, and no choice where no key falls
into a wanted entry. -/
structure ChoosesPreferred (renderers : Renderers) (r : Request) : Prop where
  chosen : ∀ renderer, renderers.choose r = .ok renderer ↔
    ∃ (before : Renderers) (key : String) (after : Renderers),
      renderers = before ++ (key, renderer) :: after ∧
        Preferred r.wantedEntries before.names key after.names
  refused : (∃ failure, renderers.choose r = .error failure) ↔
    ∀ key ∈ renderers.names, ∀ range ∈ r.wantedEntries, ¬(read key).fits range = true
  told : ∀ failure, renderers.choose r = .error failure → ∃ message, failure = .notAcceptable message

theorem chosenKey?_eq_some_iff (said : r.accept?.isSome = true) {key : String} :
    renderers.chosenKey? r = some key ↔ ∃ before after, renderers.names = before ++ key :: after ∧
      Preferred r.wantedEntries before key after := by
  rw [chosenKey?_of_said (Option.isSome_iff_ne_none.mp said), Request.acceptedTypes_eq]
  exact preferred?_mergeSort_eq_some_iff

theorem exists_error_of_choose_iff (said : r.accept?.isSome = true) :
    (∃ failure, renderers.choose r = .error failure) ↔
      ∀ key ∈ renderers.names, ∀ range ∈ r.wantedEntries, ¬(read key).fits range = true := by
  constructor
  · rintro ⟨failure, hfailure⟩ key hkey range hrange hfits
    obtain ⟨e, he, -⟩ := List.mem_map.mp hkey
    have haccepted : range ∈ r.acceptedTypes := List.mem_mergeSort.mpr hrange
    obtain ⟨renderer, hchoose⟩ := exists_choose (List.ne_nil_of_mem he)
      (.inr ⟨range, haccepted, key, hkey, hfits⟩)
    exact nomatch hfailure.symm.trans hchoose
  · intro h
    refine choose_of_unacceptable said (Option.eq_none_iff_forall_ne_some.mpr fun key hpreferred => ?_)
    obtain ⟨range, hrange, hfits⟩ := preferred?_eq_some hpreferred
    exact h key (mem_of_preferred hpreferred) range (List.mem_mergeSort.mp hrange) hfits

theorem choosesPreferred (distinct : renderers.names.Nodup) (said : r.accept?.isSome = true) :
    renderers.ChoosesPreferred r where
  chosen := by
    intro renderer
    rw [choose_eq_ok_iff]
    constructor
    · rintro ⟨key, hkey, hlookup⟩
      obtain ⟨front, back, hnames, preferred⟩ := (chosenKey?_eq_some_iff said).mp hkey
      obtain ⟨before, rest, rfl, rfl, hrest⟩ := List.map_eq_append_iff.mp hnames
      obtain ⟨⟨key', renderer'⟩, after, rfl, rfl, rfl⟩ := List.map_eq_cons_iff.mp hrest
      have hmem : (key', renderer') ∈ before ++ (key', renderer') :: after :=
        List.mem_append_right _ List.mem_cons_self
      have hlookup' := (Named.lookup_iff_mem distinct).mpr hmem
      obtain rfl := Option.some.inj (hlookup'.symm.trans hlookup)
      exact ⟨before, key', after, rfl, preferred⟩
    · rintro ⟨before, key, after, rfl, preferred⟩
      refine ⟨key, (chosenKey?_eq_some_iff said).mpr ⟨before.names, after.names, ?_, preferred⟩, ?_⟩
      · rw [Named.names, List.map_append, List.map_cons]
        rfl
      · exact (Named.lookup_iff_mem distinct).mpr (List.mem_append_right _ List.mem_cons_self)
  refused := exists_error_of_choose_iff said
  told := fun _ => notAcceptable_of_choose said

theorem choose_of_ofRank_eq (said : r.accept?.isSome = true) (also : other.accept?.isSome = true)
    (h : ∀ rank, ofRank rank other.wantedEntries = ofRank rank r.wantedEntries) :
    renderers.choose other = renderers.choose r := by
  have haccepted : other.acceptedTypes = r.acceptedTypes := mergeSort_eq_of_ofRank_eq h
  simp only [choose, filter_default_of_said said, filter_default_of_said also, haccepted]

/-- Of renderers under different names, the one that is chosen goes before all others by the entries that
its key falls into; the choice stays the same if entries of different ranks change places, if the entries
are spread over lines, and, where no two keys fall into one entry, if renderers change places. -/
theorem preferred_chosen (distinct : renderers.names.Nodup) (said : r.accept?.isSome = true) :
    renderers.ChoosesPreferred r ∧
      (∀ other : Request, other.accept?.isSome = true →
        ((∀ rank, ofRank rank other.wantedEntries = ofRank rank r.wantedEntries) ∨
          other.wantedEntries.Perm r.wantedEntries ∧ (r.wantedEntries.map rank).Nodup ∨
          other.acceptLines.flatMap Request.entriesOf = r.acceptLines.flatMap Request.entriesOf) →
        renderers.choose other = renderers.choose r) ∧
      ∀ shuffled : Renderers, shuffled.Perm renderers →
        (∀ range ∈ r.wantedEntries, ∀ key ∈ renderers.names, ∀ other ∈ renderers.names,
          (read key).fits range = true → (read other).fits range = true → key = other) →
        ∀ renderer, shuffled.choose r = .ok renderer ↔ renderers.choose r = .ok renderer := by
  refine ⟨choosesPreferred distinct said, fun other also hentries => ?_,
    fun shuffled perm alone renderer => ?_⟩
  · refine choose_of_ofRank_eq said also fun rank => ?_
    rcases hentries with hties | ⟨perm, apart⟩ | hspread
    · exact hties rank
    · exact ofRank_eq_of_perm perm apart rank
    · rw [← Request.acceptEntries_eq, ← Request.acceptEntries_eq] at hspread
      rw [Request.wantedEntries, hspread, Request.wantedEntries]
  · have hnames : shuffled.names.Perm renderers.names := perm.map Prod.fst
    have hdistinct : shuffled.names.Nodup := hnames.nodup_iff.mpr distinct
    have hkey : shuffled.chosenKey? r = renderers.chosenKey? r := by
      rw [chosenKey?_of_said (Option.isSome_iff_ne_none.mp said),
        chosenKey?_of_said (Option.isSome_iff_ne_none.mp said)]
      exact preferred?_of_perm hnames fun range hrange => alone range (List.mem_mergeSort.mp hrange)
    have hlookup : ∀ key, shuffled.lookup key = some renderer ↔ renderers.lookup key = some renderer := by
      intro key
      exact (Named.lookup_iff_mem hdistinct).trans
        (perm.mem_iff.trans (Named.lookup_iff_mem distinct).symm)
    rw [choose_eq_ok_iff, choose_eq_ok_iff, hkey]
    exact exists_congr fun key => and_congr_right fun _ => hlookup key

def acceptingLines (lines : List String) : Request where
  method := "GET"
  uri := default
  headers := ⟨lines.map fun line => ("accept", Text.utf8 line)⟩
  body := []

theorem json_preferred :
    jsonAndPlain.choose (acceptingLines ["text/*, application/json"]) = .ok .json ∧
      jsonAndPlain.choose (acceptingLines ["application/json,text/*"]) = .ok .json ∧
      jsonAndPlain.choose (acceptingLines ["text/*", "application/json"]) = .ok .json ∧
      choose jsonAndPlain.reverse (acceptingLines ["text/*, application/json"]) = .ok .json := by
  obtain ⟨preferred, hsame, hshuffled⟩ := preferred_chosen
    (show jsonAndPlain.names.Nodup by decide +kernel)
    (show (acceptingLines ["text/*, application/json"]).accept?.isSome = true by decide +kernel)
  have hchosen := (preferred.chosen .json).mpr ⟨[], "application/json", _, rfl,
    by decide +kernel, by decide +kernel, fun _ h => (nomatch h), by decide +kernel⟩
  refine ⟨hchosen, (hsame _ (by decide +kernel) ?_).trans hchosen,
    (hsame _ (by decide +kernel) ?_).trans hchosen, (hshuffled _ (List.reverse_perm _) ?_ _).mpr hchosen⟩
  · exact .inr (.inl ⟨by decide +kernel, by decide +kernel⟩)
  · exact .inr (.inr (by decide +kernel))
  · decide +kernel

end Renderers

end Accord
