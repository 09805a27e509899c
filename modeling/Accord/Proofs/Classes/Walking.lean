import Accord.Proofs.Classes.Inferring

namespace Accord.ClassGraph

variable {g : ClassGraph} {context name other : String} {b r : BaseRef}
  {bases rest way : List BaseRef} {ways above front back : List (List BaseRef)}

def reached (context : String) (way : List BaseRef) : String :=
  (way.head?.map BaseRef.base).getD context

/-- Each reference of the way is written on the class to which the way before it leads. -/
inductive Way (g : ClassGraph) (context : String) : List BaseRef → Prop
  | start : Way g context []
  | up {r : BaseRef} {way : List BaseRef} : Way g context way → r ∈ g.bases (reached context way) →
      Way g context (r :: way)

/-- The walk through these references and all above them, at the end of a way: the ways on which it comes to them,
in order. -/
inductive Walk (g : ClassGraph) : List BaseRef → List BaseRef → List (List BaseRef) → Prop
  | done (way : List BaseRef) : Walk g way [] []
  | skip {b : BaseRef} {way rest : List BaseRef} {ways : List (List BaseRef)} :
      b.base = BaseRef.genericName → Walk g way rest ways → Walk g way (b :: rest) ways
  | climb {b : BaseRef} {way rest : List BaseRef} {above ways : List (List BaseRef)} :
      b.base ≠ BaseRef.genericName → Walk g (b :: way) (g.bases b.base) above → Walk g way rest ways →
        Walk g way (b :: rest) ((b :: way) :: (above ++ ways))

def First (p : BaseRef → Prop) (ways : List (List BaseRef)) (way : List BaseRef) : Prop :=
  ∃ front back, ways = front ++ way :: back ∧ ∀ other ∈ front, ∀ r ∈ other.head?, ¬p r

theorem First.mem {p : BaseRef → Prop} (first : First p ways way) : way ∈ ways := by
  obtain ⟨front, back, rfl, -⟩ := first
  exact List.mem_append_right _ List.mem_cons_self

theorem length_lineage_lt (closed : g.Closed) (ordered : g.Ordered) (hb : b ∈ g.bases name) :
    (g.lineage b.base).length < (g.lineage name).length := by
  obtain ⟨above, habove⟩ := closed.declared_of_mem_bases hb
  cases hentry : g.get? name with
  | none =>
    rw [ClassGraph.bases, hentry] at hb
    cases hb
  | some entry =>
    rw [bases_of_get? hentry] at hb
    rw [lineage_of_get? habove, lineage_of_get? hentry]
    exact (ordered name entry hentry).length_base_lt hb habove

theorem length_lineage_pos (closed : g.Closed) (ordered : g.Ordered) (hb : b ∈ g.bases name) :
    0 < (g.lineage b.base).length := by
  obtain ⟨above, habove⟩ := closed.declared_of_mem_bases hb
  rw [lineage_of_get? habove]
  exact (ordered _ above habove).length_pos

theorem length_lineage_le (closed : g.Closed) (ordered : g.Ordered) (hinherits : g.Inherits name other) :
    (g.lineage other).length ≤ (g.lineage name).length := by
  induction hinherits with
  | refl => exact Nat.le_refl _
  | tail _ hbase ih =>
    obtain ⟨b, hb, rfl⟩ := hbase
    exact Nat.le_trans (Nat.le_of_lt (length_lineage_lt closed ordered hb)) ih

theorem not_inherits_of_base (closed : g.Closed) (ordered : g.Ordered) (hb : b ∈ g.bases name) :
    ¬g.Inherits b.base name := by
  intro hinherits
  have hlt := length_lineage_lt closed ordered hb
  have hle := length_lineage_le closed ordered hinherits
  omega

theorem Way.inherits (hway : Way g context way) : g.Inherits context (reached context way) := by
  induction hway with
  | start => exact .refl
  | up _ hr ih => exact ih.tail ⟨_, hr, rfl⟩

theorem exists_way (hinherits : g.Inherits context other) :
    ∃ way, Way g context way ∧ reached context way = other := by
  induction hinherits with
  | refl => exact ⟨[], .start, rfl⟩
  | tail _ hbase ih =>
    obtain ⟨way, hway, rfl⟩ := ih
    obtain ⟨b, hb, rfl⟩ := hbase
    exact ⟨b :: way, .up hway hb, rfl⟩

theorem Way.length_lineage_lt (closed : g.Closed) (ordered : g.Ordered) (hway : Way g context (r :: way)) :
    ∀ earlier ∈ way, (g.lineage r.base).length < (g.lineage earlier.base).length := by
  induction way generalizing r with
  | nil => exact fun _ h => (nomatch h)
  | cons first way ih =>
    cases hway with
    | up hway hr =>
      have hlt : (g.lineage r.base).length < (g.lineage first.base).length :=
        ClassGraph.length_lineage_lt closed ordered hr
      refine List.forall_mem_cons.mpr ⟨hlt, fun earlier hearlier => ?_⟩
      exact Nat.lt_trans hlt (ih hway earlier hearlier)

theorem Walk.way_of_mem (walk : Walk g way bases ways) (hway : Way g context way)
    (hbases : bases ⊆ g.bases (reached context way)) : ∀ other ∈ ways, Way g context other := by
  induction walk with
  | done => exact fun _ h => (nomatch h)
  | skip _ _ ih => exact ih hway fun b hb => hbases (List.mem_cons_of_mem _ hb)
  | @climb b way rest above ways _ _ _ ihabove ihrest =>
    have hup : Way g context (b :: way) := .up hway (hbases List.mem_cons_self)
    refine List.forall_mem_cons.mpr ⟨hup, fun other hother => ?_⟩
    rcases List.mem_append.mp hother with hother | hother
    · exact ihabove hup (fun _ h => h) other hother
    · exact ihrest hway (fun b hb => hbases (List.mem_cons_of_mem _ hb)) other hother

theorem Walk.ne_nil (walk : Walk g way bases ways) {found : List BaseRef} (hfound : found ∈ ways) :
    found ≠ [] := by
  induction walk with
  | done => cases hfound
  | skip _ _ ih => exact ih hfound
  | climb _ _ _ ihabove ihrest =>
    rcases List.mem_cons.mp hfound with rfl | hfound
    · exact List.cons_ne_nil _ _
    · exact (List.mem_append.mp hfound).elim ihabove ihrest

theorem Walk.base_ne_generic (walk : Walk g way bases ways) {before : List BaseRef}
    (hfound : r :: before ∈ ways) : r.base ≠ BaseRef.genericName := by
  induction walk with
  | done => cases hfound
  | skip _ _ ih => exact ih hfound
  | climb hb _ _ ihabove ihrest =>
    rcases List.mem_cons.mp hfound with hfirst | hfound
    · cases hfirst
      exact hb
    · exact (List.mem_append.mp hfound).elim ihabove ihrest

theorem Walk.mem_bases (walk : Walk g [] (g.bases context) ways) (hways : r :: way ∈ ways) :
    r ∈ g.bases (reached context way) ∧ r.base ≠ BaseRef.genericName := by
  have hway : Way g context (r :: way) := walk.way_of_mem .start (fun _ h => h) _ hways
  cases hway with
  | up _ hr => exact ⟨hr, walk.base_ne_generic hways⟩

theorem Walk.mem_of_mem (walk : Walk g way bases ways) (hname : r.base ≠ BaseRef.genericName)
    (hr : r ∈ bases) : r :: way ∈ ways := by
  induction walk with
  | done => cases hr
  | skip hskip _ ih =>
    rcases List.mem_cons.mp hr with rfl | hr
    · exact absurd hskip hname
    · exact ih hr
  | climb _ _ _ _ ih =>
    rcases List.mem_cons.mp hr with rfl | hr
    · exact List.mem_cons_self
    · exact List.mem_cons_of_mem _ (List.mem_append_right _ (ih hr))

theorem Walk.inherits_of_mem (walk : Walk g way bases ways) {before : List BaseRef}
    (hfound : r :: before ∈ ways) : ∃ b ∈ bases, g.Inherits b.base r.base := by
  induction walk with
  | done => cases hfound
  | skip _ _ ih =>
    obtain ⟨b, hb, hinherits⟩ := ih hfound
    exact ⟨b, List.mem_cons_of_mem _ hb, hinherits⟩
  | climb _ _ _ ihabove ihrest =>
    rcases List.mem_cons.mp hfound with hfirst | hfound
    · cases hfirst
      exact ⟨_, List.mem_cons_self, .refl⟩
    · rcases List.mem_append.mp hfound with hfound | hfound
      · obtain ⟨b, hb, hinherits⟩ := ihabove hfound
        exact ⟨_, List.mem_cons_self, .head ⟨b, hb, rfl⟩ hinherits⟩
      · obtain ⟨b, hb, hinherits⟩ := ihrest hfound
        exact ⟨b, List.mem_cons_of_mem _ hb, hinherits⟩

theorem Walk.base_ne (closed : g.Closed) (ordered : g.Ordered) (walk : Walk g way (g.bases name) ways)
    {before : List BaseRef} (hfound : r :: before ∈ ways) : r.base ≠ name := by
  rintro rfl
  obtain ⟨b, hb, hinherits⟩ := walk.inherits_of_mem hfound
  exact not_inherits_of_base closed ordered hb hinherits

/-- A walk comes to a reference after it has gone the way to it, and goes on with what stands above it. -/
theorem Walk.around (walk : Walk g way bases ways) {before : List BaseRef}
    (hsplit : ways = front ++ (r :: before) :: back) :
    (before = way ∨ before ∈ front) ∧
      ∃ inner outer, back = inner ++ outer ∧ Walk g (r :: before) (g.bases r.base) inner := by
  induction walk generalizing front back with
  | done => cases front <;> cases hsplit
  | skip _ _ ih => exact ih hsplit
  | @climb b way rest above ways hb habove _ ihabove ihrest =>
    cases front with
    | nil =>
      cases hsplit
      exact ⟨.inl rfl, above, ways, rfl, habove⟩
    | cons first front =>
      rw [List.cons_append] at hsplit
      obtain ⟨rfl, hlater⟩ := List.cons.inj hsplit
      rcases List.append_eq_append_iff.mp hlater with ⟨gap, hfront, hways⟩ | ⟨gap, habove', hback⟩
      · obtain ⟨hbefore, hinner⟩ := ihrest hways
        refine ⟨hbefore.imp_right fun hmem => ?_, hinner⟩
        exact List.mem_cons_of_mem _ (hfront ▸ List.mem_append_right _ hmem)
      · cases gap with
        | nil =>
          have hways : ways = [] ++ (r :: before) :: back := hback.symm
          obtain ⟨hbefore, hinner⟩ := ihrest hways
          exact ⟨.inl (hbefore.resolve_right List.not_mem_nil), hinner⟩
        | cons found gap =>
          rw [List.cons_append] at hback
          obtain ⟨rfl, hgap⟩ := List.cons.inj hback
          obtain ⟨hbefore, inner, outer, rfl, hinner⟩ := ihabove habove'
          rw [List.append_assoc] at hgap
          refine ⟨.inr ?_, inner, outer ++ ways, hgap, hinner⟩
          rcases hbefore with rfl | hmem
          · exact List.mem_cons_self
          · exact List.mem_cons_of_mem _ hmem

theorem Walk.mem_front_of_mem (closed : g.Closed) (ordered : g.Ordered) (walk : Walk g way bases ways)
    {before later : List BaseRef} {other : BaseRef} (hsplit : ways = front ++ (other :: later) :: back)
    (hsame : other.base = b.base) (hfront : b :: before ∈ front) (hname : r.base ≠ BaseRef.genericName)
    (hr : r ∈ g.bases b.base) : r :: b :: before ∈ front := by
  obtain ⟨first, second, rfl⟩ := List.append_of_mem hfront
  rw [List.append_assoc, List.cons_append] at hsplit
  obtain ⟨-, inner, outer, hback, hinner⟩ := walk.around hsplit
  have hfound : r :: b :: before ∈ inner := hinner.mem_of_mem hname hr
  refine List.mem_append_right _ (List.mem_cons_of_mem _ ?_)
  rcases List.append_eq_append_iff.mp hback with ⟨gap, hinside, hcut⟩ | ⟨gap, hbefore, -⟩
  · -- the other way to the class would go through the class itself
    cases gap with
    | nil =>
      rw [List.append_nil] at hinside
      exact hinside ▸ hfound
    | cons found gap =>
      rw [List.cons_append] at hcut
      obtain ⟨rfl, -⟩ := List.cons.inj hcut
      have hinside : (other :: later) ∈ inner := hinside ▸ List.mem_append_right _ List.mem_cons_self
      exact absurd hsame (hinner.base_ne closed ordered hinside)
  · rw [hbefore]
    exact List.mem_append_left _ hfound

/-- If a way is the first one to such a reference, then the way before it is the first one to the class on which the
reference is written. -/
theorem First.before (closed : g.Closed) (ordered : g.Ordered) (walk : Walk g [] bases ways)
    {p : BaseRef → Prop} (first : First p ways (r :: b :: way)) (hp : p r)
    (hname : r.base ≠ BaseRef.genericName) (hr : r ∈ g.bases b.base) :
    First (fun other => other.base = b.base) ways (b :: way) := by
  obtain ⟨front, back, hsplit, hnone⟩ := first
  have hbefore : b :: way ∈ front := (walk.around hsplit).1.resolve_left (List.cons_ne_nil _ _)
  obtain ⟨earlier, later, rfl⟩ := List.append_of_mem hbefore
  refine ⟨earlier, later ++ (r :: b :: way) :: back, ?_, ?_⟩
  · rw [hsplit, List.append_assoc, List.cons_append]
  · rintro (_ | ⟨other, before⟩) hother last hlast hsame
    · cases hlast
    · cases hlast
      rw [List.append_assoc, List.cons_append] at hsplit
      rw [← hsame] at hr
      have hfound := walk.mem_front_of_mem closed ordered hsplit hsame.symm hother hname hr
      exact hnone _ (List.mem_append_left _ hfound) r rfl hp

theorem exists_walk (closed : g.Closed) (ordered : g.Ordered) (way : List BaseRef)
    (hbases : bases ⊆ g.bases name) : ∃ ways, Walk g way bases ways := by
  induction hrank : (g.lineage name).length using Nat.strongRecOn generalizing name way bases with
  | ind rank ih =>
    induction bases with
    | nil => exact ⟨[], .done way⟩
    | cons b rest ihrest =>
      obtain ⟨ways, hways⟩ := ihrest fun b hb => hbases (List.mem_cons_of_mem _ hb)
      by_cases hb : b.base = BaseRef.genericName
      · exact ⟨ways, .skip hb hways⟩
      · have hlt := length_lineage_lt closed ordered (hbases List.mem_cons_self)
        obtain ⟨above, habove⟩ := ih _ (hrank ▸ hlt) (b :: way) (fun _ h => h) rfl
        exact ⟨_, .climb hb habove hways⟩

theorem Walk.unique {other : List (List BaseRef)} (walk : Walk g way bases ways)
    (walk' : Walk g way bases other) : other = ways := by
  induction walk generalizing other with
  | done =>
    cases walk'
    rfl
  | skip hb _ ih =>
    cases walk' with
    | skip _ hrest => exact ih hrest
    | climb hb' _ _ => exact absurd hb hb'
  | climb hb _ _ ihabove ihrest =>
    cases walk' with
    | skip hb' _ => exact absurd hb' hb
    | climb _ habove hrest => rw [ihabove habove, ihrest hrest]

theorem Walk.heads_eq (closed : g.Closed) (ordered : g.Ordered) (walk : Walk g way bases ways)
    (hbases : bases ⊆ g.bases name) (bound : Nat) (hbound : (g.lineage name).length ≤ bound + 1) :
    ways.filterMap List.head? =
      (bases.filter fun b => b.base != BaseRef.genericName).flatMap
        fun b => b :: Inference.basesAbove g bound b.base := by
  induction walk generalizing name bound with
  | done => rfl
  | @skip b way rest ways hb _ ih =>
    have hskip : ¬(b.base != BaseRef.genericName) = true := by simp [hb]
    rw [List.filter_cons, if_neg hskip]
    exact ih (fun b hb => hbases (List.mem_cons_of_mem _ hb)) bound hbound
  | @climb b way rest above ways hb _ _ ihabove ihrest =>
    have hkeep : (b.base != BaseRef.genericName) = true := by simp [hb]
    have hlt := length_lineage_lt closed ordered (hbases List.mem_cons_self)
    have hpos := length_lineage_pos closed ordered (hbases List.mem_cons_self)
    obtain ⟨bound, rfl⟩ : ∃ n, bound = n + 1 := ⟨bound - 1, by omega⟩
    have hinner := ihabove (List.Subset.refl (g.bases b.base)) bound (by omega)
    have houter := ihrest (fun b hb => hbases (List.mem_cons_of_mem _ hb)) (bound + 1) hbound
    rw [List.filter_cons, if_pos hkeep, List.flatMap_cons, List.filterMap_cons, List.head?_cons,
      List.filterMap_append, hinner, houter, Inference.basesAbove]
    rfl

end Accord.ClassGraph
