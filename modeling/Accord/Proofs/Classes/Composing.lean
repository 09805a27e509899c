import Accord.Proofs.Classes.Filling

namespace Accord

open Inference

variable {g : ClassGraph} {context target param : String} {params : List String} {r : BaseRef}
  {arg : TypeArg} {solution : Solution} {way : List BaseRef} {ways : List (List BaseRef)}

def TypeArg.toSchema : TypeArg → Except TypeArg Schema
  | .concrete s => .ok s
  | .param name => .error (.param name)

namespace Inference

open ClassGraph

/-- What an argument becomes on a way, from the last reference on. -/
def composed (g : ClassGraph) (way : List BaseRef) (arg : TypeArg) : TypeArg := way.foldl (substitute g) arg

/-- The first way to a reference that gives arguments to the class, and no way if there is none. -/
def giving (name : String) (ways : List (List BaseRef)) : List BaseRef :=
  (ways.find? fun way => way.head?.any (BaseRef.gives name)).getD []

/-- What a parameter of a class becomes, in as many steps as are taken, on the first way that gives it an argument. -/
def destination (g : ClassGraph) (ways : List (List BaseRef)) (target param : String) : TypeArg :=
  composed g ((giving target ways).take stepLimit) (.param param)

def answer (label : String) (reached : Except TypeArg Schema) : Except Failure Schema :=
  match reached with
  | .ok s => .ok s
  | .error arg => .error (.unsolvable ("Cannot solve type annotations for " ++ arg.text ++
      ". Is definition for " ++ label ++ " generic? It must be concrete"))

theorem schemaOf_eq_answer (solution : Solution) (label param : String) :
    schemaOf solution label param = answer label (follow solution stepLimit (.param param)) := rfl

theorem composed_concrete (g : ClassGraph) (way : List BaseRef) (s : Schema) :
    composed g way (.concrete s) = .concrete s := by
  induction way with
  | nil => rfl
  | cons r way ih => exact ih

theorem composed_of_free (hfree : ∀ r ∈ way, param ∉ g.params r.base) :
    composed g way (.param param) = .param param := by
  induction way with
  | nil => rfl
  | cons r way ih =>
    obtain ⟨hr, hway⟩ := List.forall_mem_cons.mp hfree
    have hnone : (g.pairs r).lookup param = none := by
      rw [Named.lookup_eq_none_iff_not_mem]
      intro hmem
      obtain ⟨e, he, rfl⟩ := List.mem_map.mp hmem
      exact hr (mem_params_of_mem_pairs he)
    have hself : substitute g (.param param) r = .param param := by
      rw [substitute, handOver, hnone, Option.getD_none]
    rw [composed, List.foldl_cons, hself]
    exact ih hway

theorem follow_concrete (solution : Solution) (steps : Nat) (s : Schema) :
    follow solution steps (.concrete s) = .ok s := by
  cases steps <;> rfl

theorem follow_of_self (hself : solution.lookup param = some (.param param)) (steps : Nat) :
    follow solution steps (.param param) = .error (.param param) := by
  induction steps with
  | zero => rfl
  | succ steps ih => rw [follow, hself, Option.getD_some, ih]

theorem giving_eq (name : String) (ways : List (List BaseRef)) :
    (giving name ways = [] ∧ ∀ r way, r :: way ∈ ways → r.gives name = false) ∨
      ∃ r way, giving name ways = r :: way ∧ First (fun s => s.gives name = true) ways (r :: way) ∧
        r.gives name = true := by
  rw [giving]
  cases hfound : ways.find? fun way => way.head?.any (BaseRef.gives name) with
  | none =>
    refine .inl ⟨rfl, fun r way hway => ?_⟩
    exact Bool.eq_false_iff.mpr (List.find?_eq_none.mp hfound _ hway)
  | some way =>
    obtain ⟨hway, front, back, hsplit, hfront⟩ := List.find?_eq_some_iff_append.mp hfound
    cases way with
    | nil => cases hway
    | cons r way =>
      refine .inr ⟨r, way, rfl, ⟨front, back, hsplit, ?_⟩, hway⟩
      rintro (_ | ⟨s, before⟩) hother last hlast hgives
      · cases hlast
      · cases hlast
        have hnot := hfront _ hother
        rw [List.head?_cons, Option.any_some, hgives] at hnot
        cases hnot

section

variable (regular : g.Regular) (walk : Walk g [] (g.bases context) ways)

include regular walk

theorem lookup_solve_of_first (first : First (fun s => s.base = r.base) ways (r :: way))
    (passed : Passed g params r.base param) :
    (solve g context params).lookup param = some (substitute g (.param param) r) := by
  rw [solve_eq_fill regular.closed regular.ordered walk]
  exact lookup_fill_of_first regular walk first passed fun k hk => has_of_lookup (lookup_start hk)

theorem lookup_solve_of_giving (first : First (fun s => s.gives target = true) ways (r :: way))
    (hgives : r.gives target = true) (hparams : params ⊆ g.params target) (hparam : param ∈ params) :
    (solve g context params).lookup param = some (substitute g (.param param) r) := by
  obtain ⟨front, back, hsplit, hfront⟩ := first
  have hways : ∀ s before, s :: before ∈ ways → ∃ name, s ∈ g.bases name :=
    fun s before hs => ⟨_, (walk.mem_bases hs).1⟩
  obtain ⟨hr, hname⟩ := walk.mem_bases (hsplit ▸ List.mem_append_right _ List.mem_cons_self)
  obtain ⟨hbase, hargs⟩ : r.base = target ∧ r.args ≠ [] := by simpa [BaseRef.gives] using hgives
  have hback : Keyed g target (fill g back (start params)) :=
    (keyed_start hparams).fill regular fun s before hs =>
      hways s before (hsplit ▸ List.mem_append_right _ (List.mem_cons_of_mem _ hs))
  have hhas : (fill g back (start params)).has param = true :=
    has_fill back (has_of_lookup (lookup_start hparam))
  have hput := lookup_putBase_of_mem regular hr hname (hbase ▸ hparams hparam) (.inr ⟨hargs, hhas⟩)
  rw [solve_eq_fill regular.closed regular.ordered walk, hsplit, fill_append, fill_cons]
  refine ((hback.putBase regular hr).lookup_fill regular (fun s before hs => ?_) (hparams hparam)
    fun s before hs => Bool.eq_false_iff.mpr (hfront _ hs s rfl)).trans hput
  exact hways s before (hsplit ▸ List.mem_append_left _ hs)

theorem lookup_solve_of_none (hgives : ∀ r way, r :: way ∈ ways → r.gives target = false)
    (hparams : params ⊆ g.params target) (hparam : param ∈ params) :
    (solve g context params).lookup param = some (.param param) := by
  rw [solve_eq_fill regular.closed regular.ordered walk, ← lookup_start hparam]
  exact (keyed_start hparams).lookup_fill regular (fun r way hway => ⟨_, (walk.mem_bases hway).1⟩)
    (hparams hparam) hgives

theorem lookup_solve_of_context (passed : Passed g params context param) :
    (solve g context params).lookup param = some (.param param) := by
  rw [solve_eq_fill regular.closed regular.ordered walk]
  exact fill_passed regular passed walk fun k hk => has_of_lookup (lookup_start hk)

theorem follow_step (hway : r :: way ∈ ways) (hparam : param ∈ g.params r.base)
    (hlookup : solution.lookup param = some (substitute g (.param param) r))
    (hnext : ∀ next steps, (param, .param next) ∈ g.pairs r →
      follow solution steps (.param next) = (composed g (way.take steps) (.param next)).toSchema)
    (steps : Nat) :
    follow solution steps (.param param) = (composed g ((r :: way).take steps) (.param param)).toSchema := by
  cases steps with
  | zero => rfl
  | succ steps =>
    have hfollow : follow solution (steps + 1) (.param param) =
        follow solution steps (substitute g (.param param) r) := by
      rw [follow, hlookup, Option.getD_some]
    have hcomposed : composed g ((r :: way).take (steps + 1)) (.param param) =
        composed g (way.take steps) (substitute g (.param param) r) := rfl
    rw [hfollow, hcomposed]
    cases hgiven : (g.pairs r).lookup param with
    | none =>
      have hself : substitute g (.param param) r = .param param := by
        rw [substitute, handOver, hgiven, Option.getD_none]
      have hhigher := (walk.way_of_mem .start (fun _ h => h) _ hway).length_lineage_lt
        regular.closed regular.ordered
      rw [hself] at hlookup ⊢
      rw [follow_of_self hlookup, composed_of_free fun s hs hmem => ?_]
      · rfl
      · have hlt := hhigher s (List.mem_of_mem_take hs)
        rw [regular.tidy.owner_eq hmem hparam] at hlt
        exact Nat.lt_irrefl _ hlt
    | some arg =>
      have hself : substitute g (.param param) r = arg := by
        rw [substitute, handOver, hgiven, Option.getD_some]
      rw [hself]
      cases arg with
      | concrete s =>
        rw [follow_concrete, composed_concrete]
        rfl
      | param next => exact hnext next steps (Named.mem_of_lookup hgiven)

/-- A parameter that stands for what one reference makes of it is followed along the way to that reference. -/
theorem follow_solve (hway : r :: way ∈ ways)
    (hbefore : ∀ b rest, way = b :: rest → First (fun s => s.base = b.base) ways way)
    (hparam : param ∈ g.params r.base)
    (hpassed : ∀ next, (param, .param next) ∈ g.pairs r → Passed g params (reached context way) next)
    (hlookup : (solve g context params).lookup param = some (substitute g (.param param) r)) (steps : Nat) :
    follow (solve g context params) steps (.param param) =
      (composed g ((r :: way).take steps) (.param param)).toSchema := by
  induction way generalizing r param steps with
  | nil =>
    refine follow_step regular walk hway hparam hlookup (fun next steps hnext => ?_) steps
    rw [follow_of_self (lookup_solve_of_context regular walk (hpassed next hnext)), List.take_nil]
    rfl
  | cons b rest ih =>
    refine follow_step regular walk hway hparam hlookup (fun next steps hnext => ?_) steps
    have first := hbefore b rest rfl
    have passed : Passed g params b.base next := hpassed next hnext
    obtain ⟨hmem, hname⟩ := walk.mem_bases first.mem
    refine ih first.mem (fun c above hrest => ?_) (passed.mem_params regular.tidy) (fun last hlast => ?_)
      (lookup_solve_of_first regular walk first passed) steps
    · subst hrest
      exact first.before regular.closed regular.ordered walk rfl hname hmem
    · exact .again hmem hname hlast passed

/-- What is inferred for the parameters of a class comes from the first way to a reference that gives them
arguments. -/
theorem schemaOf_solve (hparams : params ⊆ g.params target) (hparam : param ∈ params) (label : String) :
    schemaOf (solve g context params) label param = answer label (destination g ways target param).toSchema := by
  have hfollow : follow (solve g context params) stepLimit (.param param) =
      (destination g ways target param).toSchema := by
    rw [destination]
    rcases giving_eq target ways with ⟨hnone, hgives⟩ | ⟨r, way, hgiving, first, hgives⟩
    · rw [follow_of_self (lookup_solve_of_none regular walk hgives hparams hparam), hnone, List.take_nil]
      rfl
    · have hmem : r :: way ∈ ways := first.mem
      obtain ⟨hr, hname⟩ := walk.mem_bases hmem
      have hbase : r.base = target := by simp_all [BaseRef.gives]
      rw [hgiving]
      refine follow_solve regular walk hmem (fun b rest hway => ?_) (hbase ▸ hparams hparam)
        (fun next hnext => .once hr hname hnext hparam)
        (lookup_solve_of_giving regular walk first hgives hparams hparam) stepLimit
      subst hway
      exact first.before regular.closed regular.ordered walk hgives hname hr
  rw [schemaOf_eq_answer, hfollow]

end

theorem mapM_congr {α β ε : Type} {f f' : α → Except ε β} {xs : List α} (h : ∀ x ∈ xs, f x = f' x) :
    xs.mapM f = xs.mapM f' := by
  induction xs with
  | nil => rfl
  | cons x xs ih =>
    obtain ⟨hx, hxs⟩ := List.forall_mem_cons.mp h
    rw [List.mapM_cons, List.mapM_cons, hx, ih hxs]

/-- Among classes of which no two share a parameter, and which name only parameters of their own, there is one walk
up from every class. All its references are looked at, however many ways there are. Each parameter is inferred to be
what the arguments make of it on the way to the first reference that gives arguments to its class. -/
theorem infer_eq_composed (history : List ClassDecl) (tidy : (initial.after history).Tidy) (context : String) :
    ∃ ways, (∀ other, Walk (initial.after history) [] ((initial.after history).bases context) other ↔
        other = ways) ∧
      (∀ more, basesAbove (initial.after history) ((initial.after history).entries.length + 1 + more) context =
        ways.filterMap List.head?) ∧
      ∀ target params, params ⊆ (initial.after history).params target →
        (∀ label, inferAll (initial.after history) context label params = params.mapM fun param => do
          return (param, ← answer label (destination (initial.after history) ways target param).toSchema)) ∧
        ∀ param ∈ params, inferParam (initial.after history) context param =
          answer ("~" ++ param) (destination (initial.after history) ways target param).toSchema := by
  have regular := regular_after history tidy
  obtain ⟨ways, walk⟩ := exists_walk regular.closed regular.ordered []
    (List.Subset.refl ((initial.after history).bases context))
  refine ⟨ways, fun other => ⟨walk.unique, fun h => h ▸ walk⟩,
    basesAbove_eq_of_walk regular.closed regular.ordered walk,
    fun target params hparams => ⟨fun label => ?_, ?_⟩⟩
  · refine mapM_congr fun param hparam => ?_
    rw [schemaOf_solve regular walk hparams hparam]
  · intro param hparam
    have hone : [param] ⊆ (initial.after history).params target :=
      List.cons_subset.mpr ⟨hparams hparam, List.nil_subset _⟩
    exact schemaOf_solve regular walk hone List.mem_cons_self _

def stores : List ClassDecl :=
  [{ name := "Box", bases := [BaseRef.generic ["T"]] },
    { name := "Shelf", bases := [⟨"Box", [.param "S"]⟩] },
    { name := "Left", bases := [⟨"Box", []⟩] },
    { name := "Right", bases := [⟨"Shelf", [.concrete .plainInteger]⟩] },
    { name := "Store", bases := [⟨"Left", []⟩, ⟨"Right", []⟩] }]

theorem stores_tidy : (initial.after stores).Tidy := ⟨by decide +kernel, by decide +kernel⟩

theorem walk_store : Walk (initial.after stores) [] ((initial.after stores).bases "Store")
    [[⟨"Left", []⟩],
      [⟨"Box", []⟩, ⟨"Left", []⟩],
      [⟨"Right", []⟩],
      [⟨"Shelf", [.concrete .plainInteger]⟩, ⟨"Right", []⟩],
      [⟨"Box", [.param "S"]⟩, ⟨"Shelf", [.concrete .plainInteger]⟩, ⟨"Right", []⟩]] := by
  have hbox : (initial.after stores).bases "Box" = [BaseRef.generic ["T"]] := by with_unfolding_all rfl
  have hshelf : (initial.after stores).bases "Shelf" = [⟨"Box", [.param "S"]⟩] := by with_unfolding_all rfl
  have hleft : (initial.after stores).bases "Left" = [⟨"Box", []⟩] := by with_unfolding_all rfl
  have hright : (initial.after stores).bases "Right" = [⟨"Shelf", [.concrete .plainInteger]⟩] := by
    with_unfolding_all rfl
  have hstore : (initial.after stores).bases "Store" = [⟨"Left", []⟩, ⟨"Right", []⟩] := by
    with_unfolding_all rfl
  have box (way : List BaseRef) : Walk (initial.after stores) way ((initial.after stores).bases "Box") [] := by
    rw [hbox]
    exact .skip rfl (.done way)
  have shelf (way : List BaseRef) : Walk (initial.after stores) way ((initial.after stores).bases "Shelf")
      [⟨"Box", [.param "S"]⟩ :: way] := by
    rw [hshelf]
    exact .climb (b := ⟨"Box", _⟩) (by decide) (box _) (.done way)
  have left (way : List BaseRef) : Walk (initial.after stores) way ((initial.after stores).bases "Left")
      [⟨"Box", []⟩ :: way] := by
    rw [hleft]
    exact .climb (b := ⟨"Box", _⟩) (by decide) (box _) (.done way)
  have right (way : List BaseRef) : Walk (initial.after stores) way ((initial.after stores).bases "Right")
      [⟨"Shelf", [.concrete .plainInteger]⟩ :: way,
        ⟨"Box", [.param "S"]⟩ :: ⟨"Shelf", [.concrete .plainInteger]⟩ :: way] := by
    rw [hright]
    exact .climb (b := ⟨"Shelf", _⟩) (by decide) (shelf _) (.done way)
  rw [hstore]
  exact .climb (b := ⟨"Left", _⟩) (by decide) (left _)
    (.climb (b := ⟨"Right", _⟩) (by decide) (right _) (.done []))

theorem store_holds_numbers :
    (initial.after stores).Tidy ∧ inferParam (initial.after stores) "Store" "T" = .ok .plainInteger := by
  refine ⟨stores_tidy, ?_⟩
  obtain ⟨ways, hwalk, -, hinfer⟩ := infer_eq_composed stores stores_tidy "Store"
  rw [(hinfer "Box" ["T"] (by decide +kernel)).2 "T" List.mem_cons_self, ← (hwalk _).mp walk_store]
  with_unfolding_all rfl

/-- The first way to a class, whether it gives arguments or not. -/
def leading (name : String) (ways : List (List BaseRef)) : List BaseRef :=
  (ways.find? fun way => way.head?.any fun r => r.base == name).getD []

/-- The first way to a class does not always count: it may end with a reference that gives no arguments, and then a
later one is followed. -/
theorem not_infer_eq_composed_leading :
    ¬∀ history, (initial.after history).Tidy → ∀ context ways,
      Walk (initial.after history) [] ((initial.after history).bases context) ways →
        ∀ target, (initial.after history).Inherits context target →
          ∀ param ∈ (initial.after history).params target,
            inferParam (initial.after history) context param = answer ("~" ++ param)
              (composed (initial.after history) ((leading target ways).take stepLimit) (.param param)).toSchema := by
  intro hclaim
  have hway : Way (initial.after stores) "Store" [⟨"Box", []⟩, ⟨"Left", []⟩] :=
    walk_store.way_of_mem .start (fun _ h => h) _ (List.mem_cons_of_mem _ List.mem_cons_self)
  have hanswer := hclaim stores stores_tidy "Store" _ walk_store "Box" hway.inherits "T" (by decide +kernel)
  have hnumbers : inferParam (initial.after stores) "Store" "T" = .ok .plainInteger := by
    with_unfolding_all rfl
  have hnone : composed (initial.after stores) [⟨"Box", []⟩, ⟨"Left", []⟩] (.param "T") = .param "T" := by
    with_unfolding_all rfl
  rw [hnumbers] at hanswer
  exact nomatch hanswer.trans (congrArg (fun arg => answer "~T" (TypeArg.toSchema arg)) hnone)

end Inference

end Accord
