import Accord.Proofs.ContentTypes
import Accord.Proofs.Service.Listing

namespace Accord

namespace Text

def IsWord (s : String) : Prop := ∀ c ∈ s.toList, c.isLower = true ∨ c = '_'

instance (s : String) : Decidable (IsWord s) := List.decidableBAll _ s.toList

theorem word_char {c : Char} (h : c.isLower = true ∨ c = '_') :
    c.toLower = c ∧ ContentType.Shown c.toUpper ∧ c.toUpper ≠ ',' ∧ isBlank c.toUpper = false := by
  have hall : ∀ n < 128, (Char.ofNat n).isLower = true ∨ Char.ofNat n = '_' →
      (Char.ofNat n).toLower = Char.ofNat n ∧ ContentType.Shown (Char.ofNat n).toUpper ∧
        (Char.ofNat n).toUpper ≠ ',' ∧ isBlank (Char.ofNat n).toUpper = false := by
    unfold ContentType.Shown
    decide +kernel
  have hascii : c.toNat < 128 := by
    rcases h with hlower | rfl
    · have hlast : c.toNat ≤ 122 := (Bool.and_eq_true_iff.mp hlower).2 |> of_decide_eq_true
      omega
    · decide
  exact forall_ascii (P := fun c => c.isLower = true ∨ c = '_' → c.toLower = c ∧
    ContentType.Shown c.toUpper ∧ c.toUpper ≠ ',' ∧ isBlank c.toUpper = false) hall hascii h

theorem IsWord.asciiLower_eq {s : String} (h : IsWord s) : asciiLower s = s := by
  have hchars : s.toList.map Char.toLower = s.toList :=
    (List.map_congr_left fun c hc => (word_char (h c hc)).1).trans (List.map_id _)
  rw [asciiLower, hchars, String.ofList_toList]

theorem mem_asciiUpper {s : String} {c : Char} :
    c ∈ (asciiUpper s).toList ↔ ∃ d ∈ s.toList, d.toUpper = c := by
  rw [asciiUpper, String.toList_ofList, List.mem_map]

theorem IsWord.isEntry {s : String} (h : IsWord s) (nonempty : s ≠ "") : IsEntry (asciiUpper s) where
  ne_empty := by
    rw [asciiUpper, ne_eq, String.ofList_eq_empty_iff, List.map_eq_nil_iff, String.toList_eq_nil_iff]
    exact nonempty
  solid := by
    intro c hc
    obtain ⟨d, hd, rfl⟩ := mem_asciiUpper.mp hc
    exact (word_char (h d hd)).2.2

theorem IsWord.shown {s : String} (h : IsWord s) : ∀ c ∈ (asciiUpper s).toList, ContentType.Shown c := by
  intro c hc
  obtain ⟨d, hd, rfl⟩ := mem_asciiUpper.mp hc
  exact (word_char (h d hd)).2.1

theorem IsWord.asciiUpper_eq_iff {s word : String} (h : IsWord word) :
    asciiUpper s = asciiUpper word ↔ asciiLower s = word := by
  constructor
  · intro hupper
    rw [← asciiLower_asciiUpper, hupper, asciiLower_asciiUpper, h.asciiLower_eq]
  · rintro rfl
    exact (asciiUpper_asciiLower s).symm

theorem mem_join {separator : String} {texts : List String} {c : Char}
    (h : c ∈ (join separator texts).toList) : c ∈ separator.toList ∨ ∃ s ∈ texts, c ∈ s.toList := by
  induction texts with
  | nil => cases h
  | cons s rest ih =>
    cases rest with
    | nil => exact .inr ⟨s, List.mem_cons_self, h⟩
    | cons t rest =>
      rw [join, String.intercalate_cons_cons, String.toList_append, String.toList_append, List.mem_append,
        List.mem_append] at h
      rcases h with (h | h) | h
      · exact .inr ⟨s, List.mem_cons_self, h⟩
      · exact .inl h
      · exact (ih h).imp_right fun ⟨u, hu, hc⟩ => ⟨u, List.mem_cons_of_mem _ hu, hc⟩

end Text

namespace Contract

theorem ne_empty_of_methodOfName {name method : String} {allowed : Bool}
    (h : methodOfName name allowed = .ok method) : name ≠ "" := by
  rintro rfl
  simp [methodOfName] at h

theorem servedMethod_ne_meta (name : String) : servedMethod name ≠ "meta" := by
  unfold servedMethod
  split
  · decide
  · assumption

theorem isWord_servedMethod {name : String} (h : Text.IsWord name) : Text.IsWord (servedMethod name) := by
  unfold servedMethod
  split
  · decide
  · exact h

theorem servedMethod_ne_empty {name : String} (h : name ≠ "") : servedMethod name ≠ "" := by
  unfold servedMethod
  split
  · decide
  · exact h

end Contract

open Contract (servedMethod)

def Response.allowed (answer : Response) : List String :=
  (answer.headers.getAll "allow").flatMap fun value => Text.readList (Text.ofUtf8Lossy value)

/-- One header of the response says what is allowed, and what is read there is these methods. -/
structure Response.Allows (answer : Response) (methods : List String) : Prop where
  header : answer.headers.getAll "allow" = [Text.utf8 (Text.join ", " methods)]
  read : answer.allowed = methods

theorem Response.allows_of_header {answer : Response} {methods : List String}
    (header : answer.headers.getAll "allow" = [Text.utf8 (Text.join ", " methods)])
    (entries : ∀ method ∈ methods, Text.IsEntry method) : answer.Allows methods where
  header := header
  read := by
    rw [allowed, header, List.flatMap_singleton, Text.ofUtf8Lossy_utf8, Text.readList_join entries]

theorem listable_of_shown {methods : List String}
    (h : ∀ method ∈ methods, ∀ c ∈ method.toList, ContentType.Shown c) : Listable methods := by
  have hshown : ∀ c ∈ (Text.join ", " methods).toList, ContentType.Shown c := by
    intro c hc
    rcases Text.mem_join hc with hseparator | ⟨method, hmethod, hc⟩
    · have hall : (", ".toList.all fun c => decide (31 < c.toNat ∧ c.toNat < 127)) = true := by decide
      have hchar := of_decide_eq_true (List.all_eq_true.mp hall c hseparator)
      exact hchar
    · exact h method hmethod c hc
  exact List.all_eq_true.mpr fun b hb =>
    (ContentType.of_isShownByte b (ContentType.isShownByte_of_shown hshown b hb)).1

variable {m : Type → Type}

namespace Controller

variable {c : Controller m} {d : ControllerDecl m} {r : Request}

section Words

variable (words : ∀ name ∈ c.endpoints.names, Text.IsWord name ∧ name ≠ "")

include words

theorem writable_of_allowed : ∀ method ∈ c.allowedMethods,
    Text.IsEntry method ∧ ∀ c ∈ method.toList, ContentType.Shown c := by
  intro method hmethod
  obtain ⟨name, hname, rfl⟩ := List.mem_map.mp hmethod
  obtain ⟨hword, nonempty⟩ := words name hname
  exact ⟨hword.isEntry nonempty, hword.shown⟩

theorem mem_allowedMethods (method : String) :
    Text.asciiUpper method ∈ c.allowedMethods ↔ Text.asciiLower method ∈ c.endpoints.names := by
  constructor
  · intro h
    obtain ⟨name, hname, hupper⟩ := List.mem_map.mp h
    obtain rfl := (words name hname).1.asciiUpper_eq_iff.mp hupper.symm
    exact hname
  · intro h
    exact List.mem_map.mpr ⟨_, h, Text.asciiUpper_asciiLower method⟩

theorem nodup_allowedMethods (distinct : c.endpoints.names.Nodup) : c.allowedMethods.Nodup := by
  refine List.Nodup.map_on ?_ distinct
  intro name hname other hother hupper
  have hlower := (words other hother).1.asciiUpper_eq_iff.mp hupper
  rwa [(words name hname).1.asciiLower_eq] at hlower

theorem reached_iff : (∃ e, c.endpointFor? r = some e) ↔ Text.asciiUpper r.method ∈ c.allowedMethods := by
  rw [mem_allowedMethods words, ← not_iff_not, ← Option.isSome_iff_exists, Option.not_isSome_iff_eq_none,
    endpointFor?, Named.lookup_eq_none_iff_not_mem]
  rfl

theorem refuse_allows (r : Request) :
    (c.refuse r).status = .methodNotAllowed ∧ (c.refuse r).Allows c.allowedMethods := by
  have hname : Message.headerName? "allow" = some "allow" := rfl
  have hvalue : Message.isHeaderValue (Text.utf8 (Text.join ", " c.allowedMethods)) = true :=
    listable_of_shown fun method h => (writable_of_allowed words method h).2
  have hallow : ("content-type" == Text.asciiLower "allow") = false := by decide +kernel
  have hself : ("allow" == Text.asciiLower "allow") = true := by decide +kernel
  simp only [refuse, Response.withHeader, hname, hvalue, if_true]
  refine ⟨rfl, Response.allows_of_header ?_ fun method h => (writable_of_allowed words method h).1⟩
  simp [Response.json, Headers.set, Headers.empty, Headers.getAll, hallow, hself]

end Words

theorem words_of_build [Monad m] (built : d.build = .ok c)
    (words : ∀ decl ∈ d.endpoints, Text.IsWord decl.method) :
    ∀ name ∈ c.endpoints.names, Text.IsWord name ∧ name ≠ "" := by
  have hall : ∀ decl ∈ d.allEndpoints, Text.IsWord decl.method := by
    unfold ControllerDecl.allEndpoints
    intro decl hdecl
    split at hdecl
    · rcases List.mem_append.mp hdecl with hown | hlast
      · exact words decl hown
      · have hmeta : Text.IsWord "meta" := by decide
        rw [List.mem_singleton.mp hlast]
        exact hmeta
    · exact words decl hdecl
  obtain ⟨-, specs, -, hregisters⟩ := ControllerDecl.registers_of_build built
  intro name hname
  obtain ⟨entry, hentry, rfl⟩ := List.mem_map.mp hname
  obtain ⟨decl, hdecl, hmade⟩ := exists_of_forall₂ hregisters hentry
  have hmethod := (Contract.build_eq_ok_iff.mp hmade.contract).method
  rw [ControllerDecl.method_of_registers hmade]
  exact ⟨Contract.isWord_servedMethod (hall decl hdecl),
    Contract.servedMethod_ne_empty (Contract.ne_empty_of_methodOfName hmethod)⟩

theorem listing_allows [Monad m] (built : d.build = .ok c) (lists : d.listsMethods = true)
    (words : ∀ name ∈ c.endpoints.names, Text.IsWord name ∧ name ≠ "") :
    ∃ e, c.endpoints.lookup "options" = some e ∧
      ∃ answer methods, (∀ input, e.handler input = pure (.ok (.response answer))) ∧
        answer.Allows methods ∧ methods.Pairwise (· < ·) ∧
        ∀ method, method ∈ methods ↔ method ∈ c.allowedMethods := by
  obtain ⟨specs, contract, -, -, hnames, hserved⟩ := ControllerDecl.listing_of_build built lists
  have hmem : ∀ method, method ∈ d.listed ↔ method ∈ c.allowedMethods := fun _ =>
    ControllerDecl.mem_listed hnames
  have hwritable := fun method h => writable_of_allowed words method ((hmem method).mp h)
  have listable : Listable d.listed := listable_of_shown fun method h => (hwritable method h).2
  have hallow : ("allow" == Text.asciiLower "allow") = true := by decide +kernel
  have header : (listingAnswer d.listed).headers.getAll "allow" =
      [Text.utf8 (Text.join ", " d.listed)] := by
    simp [Headers.getAll, listingAnswer, hallow]
  refine ⟨_, hserved, listingAnswer d.listed, d.listed, fun input => ?_,
    Response.allows_of_header header fun method h => (hwritable method h).1,
    Text.pairwise_sortedSet _, hmem⟩
  exact (handler_listing d.listedNames input).trans (congrArg pure (if_pos listable))

end Controller

/-- Requests go by their methods to what the declarations of the controller make. What the controller says
that it allows, in upper case, is what it serves. -/
structure RoutesByMethod [Monad m] [Deciding m] (d : ControllerDecl m) (c : Controller m) : Prop where
  /-- There is one endpoint for each declaration, made of it and for the method that it names. -/
  registered : ∃ specs, d.components = .ok specs ∧
    List.Forall₂ (d.Registers specs) d.allEndpoints c.endpoints
  allowed_eq : c.allowedMethods =
    d.allEndpoints.map fun decl => Text.asciiUpper (servedMethod decl.method)
  /-- No method is served by two endpoints, in whatever case it is written. -/
  apart : c.allowedMethods.Nodup
  reached_iff : ∀ r, (∃ e, c.endpointFor? r = some e) ↔ Text.asciiUpper r.method ∈ c.allowedMethods
  /-- A request that reaches an endpoint is served by it, and the endpoint is that of its method. -/
  served : ∀ r e, c.endpointFor? r = some e → (∀ start, c.dispatch r start = e.serve r start) ∧
    ∃ decl ∈ d.allEndpoints, Text.asciiUpper (servedMethod decl.method) = Text.asciiUpper r.method ∧
      ∃ specs, d.components = .ok specs ∧ d.Registers specs decl (Text.asciiLower r.method, e)
  refused : ∀ r, Text.asciiUpper r.method ∉ c.allowedMethods →
    ∃ answer, (∀ start, c.dispatch r start = pure answer) ∧ answer.status = .methodNotAllowed ∧
      answer.Allows c.allowedMethods
  /-- The endpoint that lists the methods does so in ascending order, and lists itself by the method for
  which it is there. -/
  lists : d.listsMethods = true → ∃ e, c.endpoints.lookup "options" = some e ∧
    ∃ answer methods, (∀ input, e.handler input = pure (.ok (.response answer))) ∧
      answer.Allows methods ∧ methods.Pairwise (· < ·) ∧ methods.Perm c.allowedMethods ∧
      "OPTIONS" ∈ methods ∧ "META" ∉ methods

namespace Controller

variable {c : Controller m} {d : ControllerDecl m}

/-- Whatever is declared, in whatever order, with custom methods and with a listing of the methods or
without: if the names are words and the controller can be made, routing and what is said to be allowed
agree. -/
theorem routes_by_method [Monad m] [Deciding m] (built : d.build = .ok c)
    (words : ∀ decl ∈ d.endpoints, Text.IsWord decl.method) : RoutesByMethod d c := by
  obtain ⟨distinct, specs, hspecs, hregisters⟩ := ControllerDecl.registers_of_build built
  have hnames := ControllerDecl.names_of_registers hregisters
  have hwords := words_of_build built words
  have hapart := nodup_allowedMethods hwords distinct
  have hallowed : c.allowedMethods =
      d.allEndpoints.map fun decl => Text.asciiUpper (servedMethod decl.method) := by
    rw [allowedMethods, hnames, List.map_map]
    rfl
  refine ⟨⟨specs, hspecs, hregisters⟩, hallowed, hapart, fun r => reached_iff hwords, ?served, ?refused,
    ?lists⟩
  case served =>
    intro r e hfound
    have hentry : (Text.asciiLower r.method, e) ∈ c.endpoints := Named.mem_of_lookup hfound
    obtain ⟨decl, hdecl, hmade⟩ := exists_of_forall₂ hregisters hentry
    refine ⟨fun start => by rw [dispatch, hfound], decl, hdecl, ?_, specs, hspecs, hmade⟩
    rw [← ControllerDecl.method_of_registers hmade, Text.asciiUpper_asciiLower]
  case refused =>
    intro r hother
    have hnone : c.endpointFor? r = none := by
      rw [Option.eq_none_iff_forall_ne_some]
      exact fun e hfound => hother ((reached_iff hwords).mp ⟨e, hfound⟩)
    exact ⟨c.refuse r, fun start => by rw [dispatch, hnone], refuse_allows hwords r⟩
  case lists =>
    intro lists
    obtain ⟨e, hserved, answer, methods, hanswer, allows, hsorted, hmem⟩ :=
      listing_allows built lists hwords
    have hoptions : "OPTIONS" ∈ c.allowedMethods :=
      (mem_allowedMethods hwords "options").mpr (List.mem_map_of_mem (Named.mem_of_lookup hserved))
    have hmeta : "META" ∉ c.allowedMethods := by
      intro h
      have hname : "meta" ∈ c.endpoints.names := (mem_allowedMethods hwords "meta").mp h
      rw [hnames] at hname
      obtain ⟨decl, -, hdecl⟩ := List.mem_map.mp hname
      exact Contract.servedMethod_ne_meta decl.method hdecl
    exact ⟨e, hserved, answer, methods, hanswer, allows, hsorted,
      (List.perm_ext_iff_of_nodup (Text.nodup_of_ascending hsorted) hapart).mpr hmem,
      (hmem _).mpr hoptions, fun h => hmeta ((hmem _).mp h)⟩

def shelf : ControllerDecl Id := ControllerDecl.withSettings {} {
  name := "Shelf"
  listsMethods := true
  endpoints := ["get", "find_all"].map fun method => {
    method := method
    payload := {
      raw? := some { returnType := .any }
      options := { allowCustomMethods := true } }
    handler := fun _ => pure (.ok (.raw .null)) } }

def searched : Request where
  method := "Find_All"
  uri := .root
  headers := .empty
  body := []

def replaced : Request := { searched with method := "PUT" }

theorem shelf_routed : (∀ decl ∈ shelf.endpoints, Text.IsWord decl.method) ∧
    ∃ c, shelf.build = .ok c ∧ c.allowedMethods = ["GET", "FIND_ALL", "OPTIONS"] ∧
      RoutesByMethod shelf c ∧
      (∃ e, c.endpointFor? searched = some e ∧ c.dispatch searched = e.serve searched) ∧
      (c.dispatch replaced : Response).Allows ["GET", "FIND_ALL", "OPTIONS"] := by
  have words : ∀ decl ∈ shelf.endpoints, Text.IsWord decl.method := by
    have hall : ∀ name ∈ ["get", "find_all"], Text.IsWord name := by decide
    exact fun decl hdecl => hall decl.method (List.mem_map_of_mem hdecl)
  have hserves : "get" ∈ shelf.servedMethods := by decide +kernel
  obtain ⟨c, -, built, -⟩ := ControllerDecl.served_of_mem hserves
  have routes := routes_by_method built words
  have hallowed : c.allowedMethods = ["GET", "FIND_ALL", "OPTIONS"] := by
    have hlisted : (shelf.allEndpoints.map fun decl => Text.asciiUpper (servedMethod decl.method)) =
        ["GET", "FIND_ALL", "OPTIONS"] := by decide +kernel
    exact routes.allowed_eq.trans hlisted
  have hsearched : Text.asciiUpper searched.method ∈ ["GET", "FIND_ALL", "OPTIONS"] := by decide +kernel
  obtain ⟨e, hfound⟩ := (routes.reached_iff searched).mpr (hallowed ▸ hsearched)
  have hreplaced : Text.asciiUpper replaced.method ∉ ["GET", "FIND_ALL", "OPTIONS"] := by decide +kernel
  obtain ⟨answer, hanswer, -, allows⟩ := routes.refused replaced (hallowed ▸ hreplaced)
  refine ⟨words, c, built, hallowed, routes, ⟨e, hfound, (routes.served searched e hfound).1 {}⟩, ?_⟩
  rw [hanswer, ← hallowed]
  exact allows

end Controller

end Accord
