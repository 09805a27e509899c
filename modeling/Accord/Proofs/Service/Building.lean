import Accord.Proofs.Contract.Building
import Accord.Proofs.Named
import Accord.Proofs.Negotiation.Deciding
import Accord.Service.Declaration
import Mathlib.Data.List.Forall2

namespace Accord

theorem exists_of_forall₂ {α β : Type} {R : α → β → Prop} {xs : List α} {ys : List β}
    (h : List.Forall₂ R xs ys) {y : β} (hy : y ∈ ys) : ∃ x ∈ xs, R x y := by
  induction h with
  | nil => cases hy
  | @cons x _ xs ys hrelated _ ih =>
    rcases List.mem_cons.mp hy with rfl | hrest
    · exact ⟨x, List.mem_cons_self, hrelated⟩
    · obtain ⟨other, hother, hothers⟩ := ih hrest
      exact ⟨other, List.mem_cons_of_mem _ hother, hothers⟩

variable {m : Type → Type}

structure DeclaredBy (d : ControllerDecl m) (specs : List ComponentSpec) (decl : EndpointDecl m)
    (e : Endpoint m) : Prop where
  handler : e.handler = decl.handler
  auth : e.contract.auth = decl.payload.options.auth.combine d.defaults.auth
  model : e.model = RequestModel.ofSpecs d.name specs d.strictRequests
  serializer : e.serializer = d.serializer

namespace ControllerDecl

variable {d : ControllerDecl m} {specs : List ComponentSpec}

def endpointOf (d : ControllerDecl m) (specs : List ComponentSpec) (decl : EndpointDecl m)
    (contract : Contract m) : Endpoint m where
  name := d.name ++ "." ++ decl.method
  contract := contract
  handler := decl.handler
  model := RequestModel.ofSpecs d.name specs d.strictRequests
  serializer := d.serializer
  strictResponses := d.strictResponses
  sharedErrorHandler := d.errorHandler

theorem addEndpoint_adds {decl : EndpointDecl m} {known endpoints : Named (Endpoint m)}
    (h : d.addEndpoint specs known decl = .ok endpoints) :
    ∃ contract : Contract m,
      Contract.build (d.name ++ "." ++ decl.method) decl.payload d.allDefaults specs decl.method =
        .ok contract ∧
      known.has contract.method = false ∧
      endpoints = known ++ [(contract.method, d.endpointOf specs decl contract)] := by
  unfold addEndpoint at h
  obtain ⟨contract, hcontract, h⟩ := ok_of_bind h
  split at h
  · cases h
  · next hfresh =>
    cases h
    exact ⟨contract, hcontract, Bool.eq_false_iff.mpr hfresh, rfl⟩

/-- The declaration makes the endpoint, which is registered under the method of its contract. -/
structure Registers (d : ControllerDecl m) (specs : List ComponentSpec) (decl : EndpointDecl m)
    (entry : String × Endpoint m) : Prop where
  method : entry.1 = entry.2.contract.method
  contract : Contract.build (d.name ++ "." ++ decl.method) decl.payload d.allDefaults specs decl.method =
    .ok entry.2.contract
  endpoint : entry.2 = d.endpointOf specs decl entry.2.contract

theorem registers_of_addEndpoints {decls : List (EndpointDecl m)} {known endpoints : Named (Endpoint m)}
    (h : decls.foldlM (d.addEndpoint specs) known = .ok endpoints) :
    ∃ added, endpoints = known ++ added ∧ List.Forall₂ (d.Registers specs) decls added := by
  induction decls generalizing known with
  | nil =>
    cases h
    exact ⟨[], (List.append_nil _).symm, .nil⟩
  | cons decl rest ih =>
    rw [List.foldlM_cons] at h
    obtain ⟨next, hnext, hrest⟩ := ok_of_bind h
    obtain ⟨contract, hcontract, -, rfl⟩ := addEndpoint_adds hnext
    obtain ⟨added, rfl, hadded⟩ := ih hrest
    exact ⟨_ :: added, List.append_assoc .., .cons ⟨rfl, hcontract, rfl⟩ hadded⟩

theorem nodup_of_addEndpoints {decls : List (EndpointDecl m)} {known endpoints : Named (Endpoint m)}
    (h : decls.foldlM (d.addEndpoint specs) known = .ok endpoints) (distinct : known.names.Nodup) :
    endpoints.names.Nodup := by
  refine foldlM_keeps (P := fun endpoints => endpoints.names.Nodup) ?_ h distinct
  intro decl _ known added hknown hadded
  obtain ⟨contract, -, hfresh, rfl⟩ := addEndpoint_adds hadded
  rw [← Bool.not_eq_true, Named.has_iff_mem_names] at hfresh
  rw [Named.names, List.map_append, List.map_singleton, ← List.concat_eq_append]
  exact List.Nodup.concat hfresh hknown

/-- What a controller serves is what its declarations make, no method twice. -/
theorem registers_of_build [Monad m] {c : Controller m} (built : d.build = .ok c) :
    c.endpoints.names.Nodup ∧
      ∃ specs, d.components = .ok specs ∧
        List.Forall₂ (d.Registers specs) d.allEndpoints c.endpoints := by
  obtain ⟨specs, hspecs, h⟩ := ok_of_bind built
  obtain ⟨endpoints, hendpoints, h⟩ := ok_of_bind h
  obtain ⟨-, -, h⟩ := ok_of_bind h
  cases h
  obtain ⟨added, rfl, hadded⟩ := registers_of_addEndpoints hendpoints
  exact ⟨nodup_of_addEndpoints hendpoints List.nodup_nil, specs, hspecs, hadded⟩

theorem made_of_build [Monad m] {c : Controller m} {method : String} {e : Endpoint m}
    (built : d.build = .ok c) (served : (method, e) ∈ c.endpoints) :
    ∃ decl ∈ d.allEndpoints, ∃ specs, d.components = .ok specs ∧
      Contract.build (d.name ++ "." ++ decl.method) decl.payload d.allDefaults specs decl.method =
        .ok e.contract ∧
      e = d.endpointOf specs decl e.contract := by
  obtain ⟨-, specs, hspecs, hregisters⟩ := registers_of_build built
  obtain ⟨decl, hdecl, hmade⟩ := exists_of_forall₂ hregisters served
  exact ⟨decl, hdecl, specs, hspecs, hmade.contract, hmade.endpoint⟩

theorem declared_of_build [Monad m] {c : Controller m} {method : String} {e : Endpoint m}
    (built : d.build = .ok c) (served : (method, e) ∈ c.endpoints) :
    ∃ decl ∈ d.allEndpoints, ∃ specs, d.components = .ok specs ∧ DeclaredBy d specs decl e := by
  obtain ⟨decl, hdecl, specs, hspecs, hcontract, hmade⟩ := made_of_build built served
  have hauth := (Contract.build_eq_ok_iff.mp hcontract).auth
  refine ⟨decl, hdecl, specs, hspecs, ?_⟩
  rw [hmade]
  exact ⟨rfl, hauth, rfl, rfl⟩

def servedMethods [Monad m] (d : ControllerDecl m) : List String :=
  match d.build with
  | .ok c => c.endpoints.names
  | .error _ => []

theorem served_of_mem [Monad m] {method : String} (h : method ∈ d.servedMethods) :
    ∃ c e, d.build = .ok c ∧ (method, e) ∈ c.endpoints := by
  unfold servedMethods at h
  cases hbuild : d.build with
  | error failure =>
    rw [hbuild] at h
    cases h
  | ok c =>
    rw [hbuild] at h
    obtain ⟨⟨_, e⟩, he, rfl⟩ := List.mem_map.mp h
    exact ⟨c, e, rfl, he⟩

end ControllerDecl

namespace Endpoint

variable {m : Type → Type} [Monad m] [LawfulMonad m] [Deciding m] {e : Endpoint m}

theorem handle_of_pure {input : HandlerInput} {out : Except Failure HandlerOutput}
    (h : e.handler input = pure out) : e.handle input = pure out := by
  rw [handle, h, Deciding.step_pure]

theorem recover_of_unhandled (unhandled : e.errorHandlers = []) (r : Request) (d : Decisions)
    (failure : Failure) :
    e.recover r d failure = pure (match failure.answer (e.decideRenderer r d).renderer? with
      | .ok response => response
      | .error _ => { status := .internalError }) := by
  rw [recover, unhandled, List.map_nil, ErrorHandler.offer, StateT.run_pure, pure_bind]
  dsimp only
  cases failure.answer (e.decideRenderer r d).renderer? <;> rfl

end Endpoint

end Accord
