import Accord.Proofs.Classes.Declaring
import Accord.Proofs.Classes.Linear

namespace Accord.ClassGraph

open Linear

variable {g h : ClassGraph} {decl : ClassDecl} {name : String} {entry : ClassEntry}

/-- The order of a class is one of the class itself and, behind it, its ancestors as its bases demand it. -/
structure Linearized (g : ClassGraph) (name : String) (entry : ClassEntry) : Prop where
  first : entry.order.head? = some name
  nodup : entry.order.Nodup
  mem_iff : ∀ other, other ∈ entry.order ↔ g.Inherits name other
  keeps : ∀ b ∈ entry.bases, ∃ above, g.order? b.base = some above ∧ above.Sublist entry.order.tail
  bases : (entry.bases.map BaseRef.base).Sublist entry.order.tail

/-- An order of all that stands above the bases of a declaration, as the bases demand it. -/
structure Allows (g : ClassGraph) (decl : ClassDecl) (order : List String) : Prop where
  nodup : order.Nodup
  mem_iff : ∀ other, other ∈ order ↔ ∃ b ∈ decl.bases, g.Inherits b.base other
  keeps : ∀ b ∈ decl.bases, ∃ above, g.order? b.base = some above ∧ above.Sublist order
  bases : (decl.bases.map BaseRef.base).Sublist order

def Ordered (g : ClassGraph) : Prop := ∀ name entry, g.get? name = some entry → Linearized g name entry

theorem order?_of_get? (hentry : g.get? name = some entry) : g.order? name = some entry.order := by
  rw [order?, hentry]
  rfl

def demands (g : ClassGraph) (decl : ClassDecl) : List (List String) :=
  (decl.bases.map BaseRef.base).map (fun base => (g.order? base).getD []) ++
    [decl.bases.map BaseRef.base]

theorem linearize?_eq (g : ClassGraph) (decl : ClassDecl) :
    g.linearize? decl = (merge? (g.demands decl)).map (decl.name :: ·) := rfl

section

variable (ordered : g.Ordered) (checked : ∀ b ∈ decl.bases, g.checkBase decl b = .ok ())

include ordered checked

theorem exists_order_of_checked {b : BaseRef} (hb : b ∈ decl.bases) : ∃ above,
    g.get? b.base = some above ∧ g.order? b.base = some above.order ∧
      Linearized g b.base above := by
  obtain ⟨above, habove⟩ := exists_of_checkBase (checked b hb)
  exact ⟨above, habove, order?_of_get? habove, ordered _ _ habove⟩

theorem mem_demands_iff (other : String) :
    (∃ s ∈ g.demands decl, other ∈ s) ↔ ∃ b ∈ decl.bases, g.Inherits b.base other := by
  simp only [demands, List.mem_append, List.mem_map, List.mem_singleton]
  constructor
  · rintro ⟨s, ⟨base, ⟨b, hb, rfl⟩, rfl⟩ | rfl, hmem⟩
    · obtain ⟨above, -, horder, hlinear⟩ := exists_order_of_checked ordered checked hb
      rw [horder] at hmem
      exact ⟨b, hb, (hlinear.mem_iff other).mp hmem⟩
    · obtain ⟨b, hb, rfl⟩ := List.mem_map.mp hmem
      exact ⟨b, hb, .refl⟩
  · rintro ⟨b, hb, hinherits⟩
    obtain ⟨above, -, horder, hlinear⟩ := exists_order_of_checked ordered checked hb
    refine ⟨_, .inl ⟨b.base, ⟨b, hb, rfl⟩, rfl⟩, ?_⟩
    rw [horder]
    exact (hlinear.mem_iff other).mpr hinherits

theorem extends_demands_iff (order : List String) : Extends (g.demands decl) order ↔
    order.Nodup ∧
      (∀ b ∈ decl.bases, ∃ above, g.order? b.base = some above ∧ above.Sublist order) ∧
      (decl.bases.map BaseRef.base).Sublist order := by
  constructor
  · rintro ⟨hnodup, hkeeps⟩
    refine ⟨hnodup, fun b hb => ?_, hkeeps _ (List.mem_append_right _ List.mem_cons_self)⟩
    obtain ⟨above, -, horder, -⟩ := exists_order_of_checked ordered checked hb
    refine ⟨above.order, horder, hkeeps _ (List.mem_append_left _ ?_)⟩
    refine List.mem_map.mpr ⟨b.base, List.mem_map_of_mem hb, ?_⟩
    rw [horder]
    rfl
  · rintro ⟨hnodup, hkeeps, hbases⟩
    refine ⟨hnodup, fun s hs => ?_⟩
    rcases List.mem_append.mp hs with hs | hs
    · obtain ⟨base, hbase, rfl⟩ := List.mem_map.mp hs
      obtain ⟨b, hb, rfl⟩ := List.mem_map.mp hbase
      obtain ⟨above, horder, hsub⟩ := hkeeps b hb
      rw [horder]
      exact hsub
    · rw [List.mem_singleton.mp hs]
      exact hbases

theorem allows_of_merge? {order : List String} (hmerge : merge? (g.demands decl) = some order) :
    Allows g decl order := by
  obtain ⟨hnodup, hkeeps, hbases⟩ :=
    (extends_demands_iff ordered checked order).mp (extends_of_merge? hmerge)
  refine ⟨hnodup, fun other => ?_, hkeeps, hbases⟩
  rw [mem_merge?_iff hmerge, mem_demands_iff ordered checked]

/-- An order is found just where the bases allow one. -/
theorem linearize?_isSome_iff : (g.linearize? decl).isSome ↔ ∃ order, Allows g decl order := by
  rw [linearize?_eq, Option.isSome_map]
  constructor
  · intro hsome
    obtain ⟨order, horder⟩ := Option.isSome_iff_exists.mp hsome
    exact ⟨order, allows_of_merge? ordered checked horder⟩
  · rintro ⟨order, hallows⟩
    have hextends := (extends_demands_iff ordered checked order).mpr
      ⟨hallows.nodup, hallows.keeps, hallows.bases⟩
    exact merge?_isSome_iff.mpr ⟨order, hextends⟩

end

theorem Linearized.of_within (closed : g.Closed) (hwithin : g.Within h)
    (hentry : g.get? name = some entry) (hlinear : Linearized g name entry) :
    Linearized h name entry := by
  refine ⟨hlinear.first, hlinear.nodup, fun other => ?_, fun b hb => ?_, hlinear.bases⟩
  · rw [closed.inherits_iff_of_within hwithin hentry]
    exact hlinear.mem_iff other
  · obtain ⟨above, habove⟩ := closed name entry hentry b hb
    obtain ⟨order, horder, hsub⟩ := hlinear.keeps b hb
    rw [order?_of_get? habove] at horder
    exact ⟨order, (order?_of_get? (hwithin _ _ habove)).trans horder, hsub⟩

theorem Declares.linearized (closed : g.Closed) (ordered : g.Ordered)
    (hdeclares : Declares g decl entry) :
    Linearized (g.adding decl.name entry) decl.name entry := by
  have hwithin := within_adding decl.name entry g
  obtain ⟨rest, hrest, horder⟩ := Option.map_eq_some_iff.mp
    ((linearize?_eq g decl).symm.trans hdeclares.order)
  have hallows := allows_of_merge? ordered hdeclares.checked hrest
  have hfresh : decl.name ∉ rest := by
    rw [hallows.mem_iff]
    rintro ⟨b, hb, hinherits⟩
    obtain ⟨above, habove⟩ := exists_of_checkBase (hdeclares.checked b hb)
    obtain ⟨found, hfound⟩ := closed.declared_of_inherits habove hinherits
    rw [hdeclares.new] at hfound
    cases hfound
  refine ⟨?_, ?_, fun other => ?_, fun b hb => ?_, ?_⟩
  · rw [← horder, List.head?_cons]
  · rw [← horder, List.nodup_cons]
    exact ⟨hfresh, hallows.nodup⟩
  · rw [← horder, List.mem_cons, hallows.mem_iff, inherits_iff_of_get? hdeclares.get?_adding_self,
      hdeclares.bases]
    refine or_congr_right (exists_congr fun b => and_congr_right fun hb => ?_)
    obtain ⟨above, habove⟩ := exists_of_checkBase (hdeclares.checked b hb)
    exact (closed.inherits_iff_of_within hwithin habove).symm
  · rw [hdeclares.bases] at hb
    obtain ⟨above, habove⟩ := exists_of_checkBase (hdeclares.checked b hb)
    obtain ⟨order, hbase, hsub⟩ := hallows.keeps b hb
    rw [order?_of_get? habove] at hbase
    refine ⟨order, (order?_of_get? (hwithin _ _ habove)).trans hbase, ?_⟩
    rw [← horder]
    exact hsub
  · rw [← horder, hdeclares.bases]
    exact hallows.bases

theorem Ordered.adding (closed : g.Closed) (ordered : g.Ordered) (hdeclares : Declares g decl entry) :
    (g.adding decl.name entry).Ordered := by
  intro name found hfound
  have hcases := hfound
  rw [get?_adding] at hcases
  rcases Option.or_eq_some_iff.mp hcases with hold | ⟨-, hnew⟩
  · exact (ordered name found hold).of_within closed (within_adding _ _ g) hold
  · split at hnew
    · next hname =>
      cases hnew
      rw [hname]
      exact hdeclares.linearized closed ordered
    · cases hnew

theorem initial_ordered : initial.Ordered := by
  intro name entry hentry
  have hclosed := initial_closed name entry hentry
  rw [get?, initial, Named.lookup_cons_ite] at hentry
  split at hentry
  · next hname =>
    cases hentry
    refine ⟨by rw [hname]; rfl, List.nodup_singleton _, fun other => ?_,
      fun _ hb => absurd hb List.not_mem_nil, List.nil_sublist _⟩
    have hroot : initial.get? name = some ⟨[], [], [BaseRef.genericName]⟩ := by
      rw [hname]
      rfl
    rw [inherits_iff_of_get? hroot, List.mem_singleton, hname]
    simp
  · cases hentry

theorem closed_and_ordered_after (history : List ClassDecl) :
    (initial.after history).Closed ∧ (initial.after history).Ordered := by
  refine after_induction (P := fun g => g.Closed ∧ g.Ordered)
    ⟨initial_closed, initial_ordered⟩ ?_ history
  rintro g decl entry ⟨closed, ordered⟩ hdeclares
  exact ⟨closed.adding hdeclares, ordered.adding closed hdeclares⟩

theorem Linearized.isSubclass_iff (hentry : g.get? name = some entry)
    (hlinear : Linearized g name entry) (other : String) :
    g.isSubclass name other = true ↔ g.Inherits name other := by
  rw [isSubclass, order?_of_get? hentry, Option.getD_some, List.contains_iff_mem]
  exact hlinear.mem_iff other

theorem not_allows_of_repeated (hrepeated : ¬(decl.bases.map BaseRef.base).Nodup) :
    ¬∃ order, Allows g decl order := fun ⟨_, hallows⟩ =>
  hrepeated (hallows.bases.nodup hallows.nodup)

theorem declare_refused_iff (ordered : g.Ordered) {params : List String}
    (new : g.contains decl.name = false)
    (checked : ∀ b ∈ decl.bases, g.checkBase decl b = .ok ())
    (hparams : declaredParams decl = .ok params) :
    g.declare decl = .error (inconsistent decl) ↔ ¬∃ order, Allows g decl order := by
  rw [← linearize?_isSome_iff ordered checked, declare_of_checked new checked hparams]
  cases g.linearize? decl with
  | none => exact ⟨fun _ => Bool.false_ne_true, fun _ => rfl⟩
  | some order => exact ⟨fun h => (nomatch h), fun h => absurd rfl h⟩

theorem declare_accepted_iff (ordered : g.Ordered) {params : List String}
    (new : g.contains decl.name = false)
    (checked : ∀ b ∈ decl.bases, g.checkBase decl b = .ok ())
    (hparams : declaredParams decl = .ok params) :
    (∃ h, g.declare decl = .ok h ∧ h.bases decl.name = decl.bases) ↔
      ∃ order, Allows g decl order := by
  rw [← linearize?_isSome_iff ordered checked]
  constructor
  · rintro ⟨h, hok, -⟩
    obtain ⟨entry, hdeclares, -⟩ := declare_eq_ok_iff.mp hok
    exact Option.isSome_iff_exists.mpr ⟨_, hdeclares.order⟩
  · intro hsome
    obtain ⟨order, horder⟩ := Option.isSome_iff_exists.mp hsome
    have hok := declare_of_checked new checked hparams
    rw [horder] at hok
    obtain ⟨entry, hdeclares, hadded⟩ := declare_eq_ok_iff.mp hok
    refine ⟨_, hok, ?_⟩
    rw [hadded, bases_of_get? hdeclares.get?_adding_self, hdeclares.bases]

/-- Whatever has been declared, a declaration that fails changes nothing and one that is accepted changes no
other class; every class has a linear order as its bases demand it; and a class whose declaration passes all
other checks is accepted where its bases allow an order and refused as inconsistent where they do not, as where a base is
repeated. -/
theorem linear_orders (history : List ClassDecl) (decl : ClassDecl) :
    (∀ failure, (initial.after history).declare decl = .error failure →
      initial.after (history ++ [decl]) = initial.after history) ∧
    (∀ other, other ≠ decl.name →
      (initial.after (history ++ [decl])).get? other = (initial.after history).get? other) ∧
    (∀ name entry, (initial.after history).get? name = some entry →
      Linearized (initial.after history) name entry ∧
      ∀ other, (initial.after history).isSubclass name other = true ↔
        (initial.after history).Inherits name other) ∧
    (∀ params, (initial.after history).contains decl.name = false →
      (∀ b ∈ decl.bases, (initial.after history).checkBase decl b = .ok ()) →
      declaredParams decl = .ok params →
      ((initial.after history).declare decl = .error (inconsistent decl) ↔
        ¬∃ order, Allows (initial.after history) decl order) ∧
      ((∃ h, (initial.after history).declare decl = .ok h ∧ h.bases decl.name = decl.bases) ↔
        ∃ order, Allows (initial.after history) decl order) ∧
      (¬(decl.bases.map BaseRef.base).Nodup →
        (initial.after history).declare decl = .error (inconsistent decl))) := by
  obtain ⟨-, ordered⟩ := closed_and_ordered_after history
  refine ⟨fun failure hfails => ?_, fun other hother => ?_, fun name entry hentry => ?_,
    fun params new checked hparams => ?_⟩
  · rw [after_concat, attempt_of_error hfails]
  · rw [after_concat]
    rcases attempt_eq_or (initial.after history) decl with hsame | ⟨entry, -, hadded⟩
    · rw [hsame]
    · rw [hadded, get?_adding, if_neg hother, Option.or_none]
  · have hlinear := ordered name entry hentry
    exact ⟨hlinear, hlinear.isSubclass_iff hentry⟩
  · have hrefused := declare_refused_iff ordered new checked hparams
    exact ⟨hrefused, declare_accepted_iff ordered new checked hparams,
      fun hrepeated => hrefused.mpr (not_allows_of_repeated hrepeated)⟩

def rhombus : List ClassDecl :=
  [{ name := "Top" }, { name := "Left", bases := [⟨"Top", []⟩] },
    { name := "Right", bases := [⟨"Top", []⟩] },
    { name := "Bottom", bases := [⟨"Left", []⟩, ⟨"Right", []⟩] }]

def upsideDown : ClassDecl := { name := "Wrong", bases := [⟨"Top", []⟩, ⟨"Left", []⟩] }

theorem rhombus_ordered :
    (∃ entry, (initial.after rhombus).get? "Bottom" = some entry ∧
      entry.order = ["Bottom", "Left", "Right", "Top"] ∧
      Linearized (initial.after rhombus) "Bottom" entry) ∧
    (initial.after rhombus).declare upsideDown = .error (inconsistent upsideDown) ∧
    (¬∃ order, Allows (initial.after rhombus) upsideDown order) ∧
    initial.after (rhombus ++ [upsideDown]) = initial.after rhombus := by
  obtain ⟨hfailed, -, horders, hrefused⟩ := linear_orders rhombus upsideDown
  have hbottom : (initial.after rhombus).get? "Bottom" = some ⟨[],
      [⟨"Left", []⟩, ⟨"Right", []⟩], ["Bottom", "Left", "Right", "Top"]⟩ := by
    with_unfolding_all rfl
  have hrejected : (initial.after rhombus).declare upsideDown = .error (inconsistent upsideDown) := by
    with_unfolding_all rfl
  have hchecked : ∀ b ∈ upsideDown.bases,
      (initial.after rhombus).checkBase upsideDown b = .ok () := by
    simp only [upsideDown, List.forall_mem_cons, List.not_mem_nil, false_implies, implies_true, and_true]
    constructor <;> with_unfolding_all rfl
  have hnew : (initial.after rhombus).contains upsideDown.name = false := by
    with_unfolding_all rfl
  obtain ⟨hiff, -⟩ := hrefused [] hnew hchecked rfl
  exact ⟨⟨_, hbottom, rfl, (horders _ _ hbottom).1⟩, hrejected, hiff.mp hrejected,
    hfailed _ hrejected⟩

end Accord.ClassGraph
