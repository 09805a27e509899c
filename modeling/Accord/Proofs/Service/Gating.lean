import Accord.Proofs.Service.Building
import Accord.Proofs.Service.Course

namespace Accord

variable {i j k count : Nat} {answer other : Except Failure (Option Json)} {failure : Failure}
  {identity : Json} {input : HandlerInput} {events : List Event}

theorem asked_mem_declines :
    .asked j answer ∈ declines i count ↔ i ≤ j ∧ j < i + count ∧ answer = .ok none := by
  simp only [declines, List.mem_map, List.mem_range'_1, Event.asked.injEq]
  constructor
  · rintro ⟨l, ⟨hlow, hhigh⟩, rfl, rfl⟩
    exact ⟨hlow, hhigh, rfl⟩
  · rintro ⟨hlow, hhigh, rfl⟩
    exact ⟨j, ⟨hlow, hhigh⟩, rfl, rfl⟩

theorem handled_not_mem_declines : .handled input ∉ declines i count := by
  simp [declines]

theorem providers_declines (i count : Nat) :
    (declines i count).filterMap Event.provider? = List.range' i count := by
  rw [declines, List.filterMap_map]
  exact List.filterMap_some

namespace Answered

variable {result : Except Failure Json}

theorem handled_not_mem (h : Answered i count events result) : .handled input ∉ events := by
  cases h <;> simp [handled_not_mem_declines]

theorem providers_eq_range (h : Answered 0 count events result) :
    ∃ k ≤ count, events.filterMap Event.provider? = List.range k := by
  cases h with
  | exhausted => exact ⟨count, Nat.le_refl count, by rw [providers_declines, List.range_eq_range']⟩
  | @settled k answer result hk _ =>
    refine ⟨k + 1, hk, ?_⟩
    rw [List.filterMap_append, providers_declines, ← List.range_eq_range', List.range_succ]
    simp [Event.provider?]

theorem eq_of_not_declined (h : Answered i count events result) (hj : .asked j answer ∈ events)
    (hanswer : answer ≠ .ok none) :
    ∃ k < count, j = i + k ∧ events = declines i k ++ [.asked j answer] ∧ Settles answer result := by
  cases h with
  | exhausted => exact absurd (asked_mem_declines.mp hj).2.2 hanswer
  | @settled k last result hk hsettles =>
    rcases List.mem_append.mp hj with hj | hj
    · exact absurd (asked_mem_declines.mp hj).2.2 hanswer
    · obtain ⟨rfl, rfl⟩ := Event.asked.inj (List.mem_singleton.mp hj)
      exact ⟨k, hk, rfl, rfl, hsettles⟩

theorem error_of_all_declined (h : Answered 0 count events result)
    (hall : ∀ j < count, .asked j (.ok none) ∈ events) : ∃ failure, result = .error failure := by
  cases h with
  | exhausted => exact ⟨_, rfl⟩
  | @settled k answer result hk hsettles =>
    rcases List.mem_append.mp (hall k hk) with hmem | hmem
    · have hlt := (asked_mem_declines.mp hmem).2.1
      omega
    · obtain ⟨-, rfl⟩ := Event.asked.inj (List.mem_singleton.mp hmem)
      cases hsettles

end Answered

namespace Identified

variable {m : Type → Type} {auth : Option (List (AuthProvider m))}
  {who : Except Failure (Option Json)}

theorem handled_not_mem (h : Identified auth events who) : .handled input ∉ events := by
  cases h with
  | nobody _ => exact List.not_mem_nil
  | asked _ hanswered => exact hanswered.handled_not_mem

/-- Who is found: nobody where nobody is asked for, else whom a provider knows when all before it have
declined. -/
theorem of_ok {identity : Option Json} (h : Identified auth events (.ok identity)) :
    (auth = none ∧ events = [] ∧ identity = none) ∨
      ∃ providers k known, auth = some providers ∧ k < providers.length ∧
        events = declines 0 k ++ [.asked k (.ok (some known))] ∧ identity = some known := by
  generalize hwho : Except.ok identity = who at h
  cases h with
  | nobody hauth =>
    cases hwho
    exact Or.inl ⟨hauth, rfl, rfl⟩
  | asked hauth hanswered =>
    cases hanswered with
    | exhausted => cases hwho
    | @settled k answer result hk hsettles =>
      cases hsettles with
      | failure => cases hwho
      | @identity known =>
        cases hwho
        exact Or.inr ⟨_, k, known, hauth, hk, by rw [Nat.zero_add], rfl⟩

theorem error_of_failed_or_declined (h : Identified auth events who)
    (hasked : (∃ i failure, .asked i (.error failure) ∈ events) ∨
      ∃ providers, auth = some providers ∧ ∀ i < providers.length, .asked i (.ok none) ∈ events) :
    ∃ failure, who = .error failure := by
  cases h with
  | nobody hauth =>
    rcases hasked with ⟨i, failure, hmem⟩ | ⟨providers, hproviders, -⟩
    · cases hmem
    · cases hauth.symm.trans hproviders
  | @asked providers events result hauth hanswered =>
    have herror : ∃ failure, result = .error failure := by
      rcases hasked with ⟨i, failure, hmem⟩ | ⟨others, hothers, hall⟩
      · obtain ⟨k, -, -, -, hsettles⟩ :=
          hanswered.eq_of_not_declined hmem (by exact fun h => nomatch h)
        cases hsettles
        exact ⟨failure, rfl⟩
      · cases hauth.symm.trans hothers
        exact hanswered.error_of_all_declined hall
    obtain ⟨failure, rfl⟩ := herror
    exact ⟨failure, rfl⟩

theorem asked_of_error {failure : Failure} (h : Identified auth events (.error failure)) :
    failure = .notAuthenticated "Not authenticated" ∨ ∃ i, .asked i (.error failure) ∈ events := by
  generalize hwho : Except.error failure = who at h
  cases h with
  | nobody hauth => cases hwho
  | asked hauth hanswered =>
    cases hanswered with
    | exhausted =>
      cases hwho
      exact .inl rfl
    | @settled k answer result hk hsettles =>
      cases hsettles with
      | failure =>
        cases hwho
        exact .inr ⟨_, List.mem_append_right _ List.mem_cons_self⟩
      | identity => cases hwho

theorem error_of_asked {who : Except Failure (Option Json)} {i : Nat} {failure : Failure}
    (h : Identified auth events who) (hi : .asked i (.error failure) ∈ events) :
    who = .error failure := by
  cases h with
  | nobody hauth => cases hi
  | asked hauth hanswered =>
    obtain ⟨k, -, -, -, hsettles⟩ := hanswered.eq_of_not_declined hi (fun h => nomatch h)
    cases hsettles
    rfl

theorem le_of_not_declined (h : Identified auth events who) (hi : .asked i answer ∈ events)
    (hanswer : answer ≠ .ok none) (hj : .asked j other ∈ events) : j ≤ i := by
  cases h with
  | nobody _ => cases hi
  | asked _ hanswered =>
    obtain ⟨k, -, rfl, rfl, -⟩ := hanswered.eq_of_not_declined hi hanswer
    rcases List.mem_append.mp hj with hj | hj
    · exact Nat.le_of_lt (asked_mem_declines.mp hj).2.1
    · exact Nat.le_of_eq (Event.asked.inj (List.mem_singleton.mp hj)).1

theorem ok_of_unasked_or_known (h : Identified auth events who)
    (hasked : auth = none ∨ ∃ i known, .asked i (.ok (some known)) ∈ events) :
    ∃ identity, who = .ok identity := by
  cases h with
  | nobody _ => exact ⟨none, rfl⟩
  | asked hauth hanswered =>
    rcases hasked with hnone | ⟨i, known, hmem⟩
    · cases hauth.symm.trans hnone
    · obtain ⟨k, -, -, -, hsettles⟩ :=
        hanswered.eq_of_not_declined hmem (by exact fun h => nomatch h)
      cases hsettles
      exact ⟨some known, rfl⟩

theorem eq_nil_of_unasked (h : Identified auth events who) (hnone : auth = none) : events = [] := by
  cases h with
  | nobody _ => rfl
  | asked hauth _ => cases hauth.symm.trans hnone

theorem providers_eq_range (h : Identified auth events who) :
    ∃ count ≤ (auth.getD []).length, events.filterMap Event.provider? = List.range count := by
  cases h with
  | nobody _ => exact ⟨0, Nat.zero_le _, rfl⟩
  | asked hauth hanswered =>
    rw [hauth]
    exact hanswered.providers_eq_range

end Identified

namespace Course

variable {m : Type → Type} {e : Endpoint m} {r : Request} {who : Except Failure (Option Json)}
  {d : Decisions} {out : Except Failure Response × Decisions}

theorem identified (h : Course e r d who events out) :
    ∃ asks, Identified e.contract.auth asks who ∧
      (events = asks ∨ ∃ input, events = asks ++ [.handled input]) := by
  cases h with
  | refused hwho => exact ⟨_, hwho, Or.inl rfl⟩
  | unparsed hwho _ => exact ⟨_, hwho, Or.inl rfl⟩
  | handled hwho _ => exact ⟨_, hwho, Or.inr ⟨_, rfl⟩⟩

theorem asked_mem_iff {asks : List Event}
    (hevents : events = asks ∨ ∃ input, events = asks ++ [.handled input]) :
    .asked i answer ∈ events ↔ .asked i answer ∈ asks := by
  rcases hevents with rfl | ⟨input, rfl⟩
  · exact Iff.rfl
  · simp

theorem providers_eq {asks : List Event}
    (hevents : events = asks ∨ ∃ input, events = asks ++ [.handled input]) :
    events.filterMap Event.provider? = asks.filterMap Event.provider? := by
  rcases hevents with rfl | ⟨input, rfl⟩
  · rfl
  · rw [List.filterMap_append]
    exact List.append_nil _

theorem countP_isHandled_le (h : Course e r d who events out) :
    events.countP Event.isHandled ≤ 1 := by
  obtain ⟨asks, hasks, hevents⟩ := h.identified
  have hnone : asks.countP Event.isHandled = 0 := by
    refine List.countP_eq_zero.mpr fun event hevent => ?_
    cases event with
    | asked i answer => exact Bool.false_ne_true
    | handled input => exact absurd hevent hasks.handled_not_mem
  rcases hevents with rfl | ⟨input, rfl⟩
  · omega
  · rw [List.countP_append, hnone]
    exact Nat.le_refl 1

theorem of_handled (h : Course e r d who events out) (hmem : .handled input ∈ events) :
    who = .ok input.identity ∧ ∃ asks, events = asks ++ [.handled input] ∧ input.request = r ∧
      Identified e.contract.auth asks (.ok input.identity) ∧
      ∃ d₁, (e.parse r).run.run d = (.ok input.components, d₁) := by
  cases h with
  | refused hwho => exact absurd hmem hwho.handled_not_mem
  | unparsed hwho _ => exact absurd hmem hwho.handled_not_mem
  | @handled asks identity components d₁ out hwho hparse =>
    rcases List.mem_append.mp hmem with hmem | hmem
    · exact absurd hmem hwho.handled_not_mem
    · cases List.mem_singleton.mp hmem
      exact ⟨rfl, asks, rfl, rfl, hwho, d₁, hparse⟩

theorem handled_not_mem_of_unparsed (h : Course e r d who events out) {d₁ : Decisions}
    (hparse : (e.parse r).run.run d = (.error failure, d₁)) : .handled input ∉ events := by
  intro hmem
  obtain ⟨-, -, -, -, -, d₂, hparsed⟩ := h.of_handled hmem
  rw [hparse] at hparsed
  cases hparsed

theorem handled_not_mem_of_unidentified (h : Course e r d (.error failure) events out) :
    .handled input ∉ events := fun hmem => nomatch (h.of_handled hmem).1

theorem handled_mem_of_parsed {identity : Option Json} (h : Course e r d (.ok identity) events out)
    {components : ParsedComponents} {d₁ : Decisions}
    (hparse : (e.parse r).run.run d = (.ok components, d₁)) :
    .handled ⟨r, components, identity⟩ ∈ events := by
  cases h with
  | unparsed _ hunparsed =>
    rw [hparse] at hunparsed
    cases hunparsed
  | handled _ hparsed =>
    rw [hparse] at hparsed
    cases hparsed
    exact List.mem_append_right _ List.mem_cons_self

end Course

namespace AuthPolicy

variable {m : Type → Type} {own shared : AuthPolicy m}

theorem eq_of_combine_eq_some {providers : List (AuthProvider m)}
    (h : own.combine shared = some providers) : providers = own.list ++ shared.list := by
  unfold combine at h
  split at h
  · cases h
  · dsimp only at h
    split at h
    · cases h
    · exact (Option.some.inj h).symm

theorem combine_eq_none_of_disabled (h : own.isDisabled = true ∨ shared.isDisabled = true) :
    own.combine shared = none := by
  unfold combine
  rw [if_pos (Bool.or_eq_true_iff.mpr h)]

end AuthPolicy

namespace Endpoint

variable {W : Type} [Deciding (StateM W)] {r : Request} {d d₁ : Decisions} {w w' : W}

theorem identify_congr {e e' : Endpoint (StateM W)} (h : e'.contract.auth = e.contract.auth) :
    e'.identify r = e.identify r := by
  unfold identify
  rw [h]

theorem run_of_unidentified {e : Endpoint (StateM W)}
    (h : ((e.identify r).run d).run w = ((.error failure, d₁), w')) :
    (e.run r d).run w = ((.error failure, d₁), w') := by
  rw [run, StateT.run_bind, h]
  rfl

theorem keeps_authenticate (providers : List (AuthProvider (StateM W))) (r : Request) :
    Deciding.Keeps (authenticate (providers.map AuthProvider.deciding) r) := by
  induction providers with
  | nil => exact Deciding.keeps_pure _
  | cons p rest ih =>
    refine .bind (Deciding.keeps_step _) fun answer => ?_
    rcases answer with failure | _ | identity
    · exact Deciding.keeps_pure _
    · exact ih
    · exact Deciding.keeps_pure _

theorem keeps_identify (e : Endpoint (StateM W)) (r : Request) : Deciding.Keeps (e.identify r) := by
  unfold identify
  cases e.contract.auth with
  | none => exact Deciding.keeps_pure _
  | some providers => exact (keeps_authenticate providers r).bind fun _ => Deciding.keeps_pure _

/-- The way of a request to the handler of an endpoint, where some things are decided at the start. -/
structure Gated (d : ControllerDecl (StateM W)) (decl : EndpointDecl (StateM W))
    (specs : List ComponentSpec) (e : Endpoint (StateM W)) (r : Request) (start : Decisions) (w : W) :
    Prop where
  /-- Being watched changes neither the answer nor the world. -/
  unnoticed :
    ((((e.watched.serve r start).run []).run w).1.1, (((e.watched.serve r start).run []).run w).2) =
      (e.serve r start).run w
  once : (e.seen r start w).countP Event.isHandled ≤ 1
  /-- It is given something last of all: the identity that a provider knows, all before it having
  declined, or none where nobody is asked for; and what the components came to, all of which were
  taken and passed the check. -/
  behind : ∀ input, .handled input ∈ e.seen r start w →
    ∃ asks, e.seen r start w = asks ++ [.handled input] ∧ input.request = r ∧
      ((e.contract.auth = none ∧ asks = [] ∧ input.identity = none) ∨
        ∃ providers k known, e.contract.auth = some providers ∧ k < providers.length ∧
          asks = declines 0 k ++ [.asked k (.ok (some known))] ∧ input.identity = some known) ∧
      ∃ taken decided, specs = taken.map Prod.fst ∧
        Taken e.contract.parsers r (e.afterIdentify r start w) taken decided ∧
        (taken = [] ∧ input.components = .empty ∨
          e.model.check e.serializer r (Json.sortMembers (RequestModel.membersOf taken)) =
            .ok input.components)
  /-- Where a provider fails or all decline, nothing is decided but by the providers, and all else that
  makes the endpoint is without effect: its components, its parsers, its serializer and its handler. -/
  refused : (∃ i failure, .asked i (.error failure) ∈ e.seen r start w) ∨
      (∃ providers, e.contract.auth = some providers ∧
        ∀ i < providers.length, .asked i (.ok none) ∈ e.seen r start w) →
    (∀ input, .handled input ∉ e.seen r start w) ∧
    (∃ failure, ((e.run r start).run w).1 = (.error failure, e.afterIdentify r start w)) ∧
    ∀ e' : Endpoint (StateM W), e'.contract.auth = e.contract.auth →
      (e'.run r start).run w = (e.run r start).run w
  /-- What is decided before anybody is asked stays so, and where nobody is, nothing else is decided. -/
  kept : start.Kept (e.afterIdentify r start w) ∧
    (e.contract.auth = none → e.afterIdentify r start w = start)
  /-- Where the components cannot be taken or do not pass the check, the handler is given nothing. -/
  unparsed : ∀ failure decided,
    (e.parse r).run.run (e.afterIdentify r start w) = (.error failure, decided) →
      ∀ input, .handled input ∉ e.seen r start w
  settled : ∀ i j answer other, .asked i answer ∈ e.seen r start w → answer ≠ .ok none →
    .asked j other ∈ e.seen r start w → j ≤ i
  /-- Providers are asked in order, each at most once. -/
  ordered : ∃ count ≤ (e.contract.auth.getD []).length,
    (e.seen r start w).filterMap Event.provider? = List.range count
  /-- Those of the endpoint stand before those of the controller. -/
  own_first : ∀ providers, e.contract.auth = some providers →
    providers = decl.payload.options.auth.list ++ d.defaults.auth.list
  /-- One level that disables providers is enough for none to be asked. -/
  disabled : decl.payload.options.auth.isDisabled = true ∨ d.defaults.auth.isDisabled = true →
    ∀ i answer, .asked i answer ∉ e.seen r start w
  /-- Behind an identity and checked components, the handler has its turn. -/
  reached :
    e.contract.auth = none ∨ (∃ i known, .asked i (.ok (some known)) ∈ e.seen r start w) →
      ∀ components decided,
        (e.parse r).run.run (e.afterIdentify r start w) = (.ok components, decided) →
          ∃ input, .handled input ∈ e.seen r start w

/-- Every endpoint of a controller that can be built lets requests to its handler only so. -/
theorem handler_gated {d : ControllerDecl (StateM W)} {c : Controller (StateM W)}
    {method : String} {e : Endpoint (StateM W)} (built : d.build = .ok c)
    (served : (method, e) ∈ c.endpoints) :
    ∃ decl ∈ d.allEndpoints, ∃ specs, d.components = .ok specs ∧ DeclaredBy d specs decl e ∧
      ∀ r start w, Gated d decl specs e r start w := by
  obtain ⟨decl, hdecl, specs, hspecs, hdeclared⟩ := ControllerDecl.declared_of_build built served
  refine ⟨decl, hdecl, specs, hspecs, hdeclared, fun r start w => ?_⟩
  have hcourse := e.seen_course r start w
  obtain ⟨asks, hasks, hevents⟩ := hcourse.identified
  constructor
  case unnoticed =>
    rw [← e.serve_watches r start []]
    rfl
  case once => exact hcourse.countP_isHandled_le
  case behind =>
    intro input hinput
    obtain ⟨-, before, hbefore, hrequest, hwho, decided, hparse⟩ := hcourse.of_handled hinput
    obtain ⟨taken, htaken, hall, hcheck⟩ := RequestModel.taken_of_parse_eq_ok hparse
    have hspecs : specs = taken.map Prod.fst := by
      rw [← htaken, hdeclared.model]
      rfl
    exact ⟨before, hbefore, hrequest, hwho.of_ok, taken, decided, hspecs, hall, hcheck⟩
  case refused =>
    intro hrefused
    -- The run ends before any other part of the endpoint is looked at.
    simp only [Course.asked_mem_iff hevents] at hrefused
    obtain ⟨failure, hwho⟩ := hasks.error_of_failed_or_declined hrefused
    rcases hidentify : ((e.identify r).run start).run w with ⟨⟨result, d₁⟩, w'⟩
    obtain rfl : result = .error failure := by rw [← hwho, hidentify]
    have hrun := run_of_unidentified hidentify
    have hafter : e.afterIdentify r start w = d₁ := by rw [afterIdentify, hidentify]
    refine ⟨fun input => ?_, ⟨failure, ?_⟩, fun e' hauth => ?_⟩
    · rw [hwho] at hcourse
      exact hcourse.handled_not_mem_of_unidentified
    · rw [hrun, hafter]
    · rw [hrun]
      exact run_of_unidentified (by rw [identify_congr hauth, hidentify])
  case kept =>
    refine ⟨keeps_identify e r start w, fun hnone => ?_⟩
    rw [afterIdentify, identify, hnone]
    rfl
  case unparsed =>
    intro failure decided hparse input
    exact hcourse.handled_not_mem_of_unparsed hparse
  case settled =>
    intro i j answer other hi hanswer hj
    rw [Course.asked_mem_iff hevents] at hi hj
    exact hasks.le_of_not_declined hi hanswer hj
  case ordered =>
    rw [Course.providers_eq hevents]
    exact hasks.providers_eq_range
  case own_first =>
    intro providers hproviders
    exact AuthPolicy.eq_of_combine_eq_some (hdeclared.auth.symm.trans hproviders)
  case disabled =>
    intro hdisabled i answer hi
    have hnone := hdeclared.auth.trans (AuthPolicy.combine_eq_none_of_disabled hdisabled)
    rw [Course.asked_mem_iff hevents, hasks.eq_nil_of_unasked hnone] at hi
    cases hi
  case reached =>
    intro hasked components decided hparse
    simp only [Course.asked_mem_iff hevents] at hasked
    obtain ⟨identity, hwho⟩ := hasks.ok_of_unasked_or_known hasked
    rw [hwho] at hcourse
    exact ⟨_, hcourse.handled_mem_of_parsed hparse⟩

def shy : AuthProvider (StateM Nat) where
  identify := fun _ => do
    modify (· + 1)
    return .ok none

def host : AuthProvider (StateM Nat) where
  identify := fun _ => do
    modify (· + 1)
    return .ok (some (.string "guest"))

def greeting : ControllerDecl (StateM Nat) where
  name := "Greeting"
  defaults := { auth := .providers [host] }
  endpoints := [{
    method := "get"
    payload := {
      raw? := some { returnType := Schema.plainString }
      options := { auth := .providers [shy] } }
    handler := fun _ => pure (.ok (.raw (.string "hello"))) }]

theorem greeting_gated :
    ∃ c e, greeting.build = .ok c ∧ ("get", e) ∈ c.endpoints ∧ e.contract.auth = some [shy, host] ∧
      ∀ r start w, (e.seen r start w).countP Event.isHandled ≤ 1 ∧
        ∀ input, .handled input ∈ e.seen r start w → input.identity ≠ none := by
  -- The linear order of classes does not unfold; the names of what is built can be computed.
  have hnames : (match greeting.build with
      | .ok c => c.endpoints.names
      | .error _ => []) = ["get"] := by decide +kernel
  obtain ⟨c, e, hbuilt, hserved⟩ : ∃ c e, greeting.build = .ok c ∧ ("get", e) ∈ c.endpoints := by
    cases hbuild : greeting.build with
    | error failure =>
      rw [hbuild] at hnames
      cases hnames
    | ok c =>
      rw [hbuild] at hnames
      obtain ⟨⟨_, e⟩, rest, hc, rfl, -⟩ := List.map_eq_cons_iff.mp hnames
      exact ⟨c, e, rfl, by rw [hc]; exact List.mem_cons_self⟩
  obtain ⟨decl, hdecl, specs, -, hdeclared, hgated⟩ := handler_gated hbuilt hserved
  have hauth : e.contract.auth = some [shy, host] := by
    rw [hdeclared.auth, List.mem_singleton.mp hdecl]
    rfl
  refine ⟨c, e, hbuilt, hserved, hauth, fun r start w =>
    ⟨(hgated r start w).once, fun input hinput => ?_⟩⟩
  obtain ⟨asks, -, -, ⟨hnone, -⟩ | ⟨providers, k, known, -, -, -, hknown⟩, -⟩ :=
    (hgated r start w).behind input hinput
  · rw [hauth] at hnone
    cases hnone
  · rw [hknown]
    exact Option.some_ne_none known

end Endpoint

end Accord
