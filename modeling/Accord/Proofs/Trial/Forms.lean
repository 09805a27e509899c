import Accord.Proofs.Body
import Accord.Proofs.Json.Records
import Accord.Proofs.Message.Encoding
import Accord.Proofs.Message.Query
import Accord.Proofs.Trial.Drafts

namespace Accord

namespace Uri

variable {text : String} {path query : List Char} {u : Uri}

theorem readPath_of_not_mem (hquery : '?' ∉ path) (hfragment : '#' ∉ path) :
    readPath path =
      if path.all isPathChar then .ok (String.ofList path, none) else .error .invalidChar := by
  have hall : ∀ c ∈ path, (!(c == '?' || c == '#')) = true := by
    intro c hc
    rw [Bool.not_eq_true', Bool.or_eq_false_iff, beq_eq_false_iff_ne, beq_eq_false_iff_ne]
    exact ⟨fun he => hquery (he ▸ hc), fun he => hfragment (he ▸ hc)⟩
  unfold readPath
  simp only [List.takeWhile_eq_self_iff.mpr hall, List.dropWhile_eq_nil_iff.mpr hall]
  cases path.all isPathChar <;> rfl

theorem readPath_append (hquery : '?' ∉ path) (hfragment : '#' ∉ path) (hfragment' : '#' ∉ query) :
    readPath (path ++ '?' :: query) =
      if path.all isPathChar && query.all isQueryChar then .ok (String.ofList path, some (String.ofList query))
      else .error .invalidChar := by
  have hall : ∀ c ∈ path, (!(c == '?' || c == '#')) = true := by
    intro c hc
    rw [Bool.not_eq_true', Bool.or_eq_false_iff, beq_eq_false_iff_ne, beq_eq_false_iff_ne]
    exact ⟨fun he => hquery (he ▸ hc), fun he => hfragment (he ▸ hc)⟩
  have hrest : query.takeWhile (· != '#') = query :=
    List.takeWhile_eq_self_iff.mpr fun c hc => bne_iff_ne.mpr fun he => hfragment' (he ▸ hc)
  unfold readPath
  dsimp only
  rw [Text.takeWhile_append_cons hall (by decide), Text.dropWhile_append_cons hall (by decide)]
  simp only [hrest]
  cases path.all isPathChar <;> cases query.all isQueryChar <;> rfl

theorem read_of_opens (h : Text.Opens "/" text) :
    read text = if 65534 < text.utf8ByteSize then .error .tooLong
      else (readPath text.toList).map fun (path, query) => ⟨none, "", path, query⟩ := by
  obtain ⟨rest, hrest⟩ := h
  have htext : text.toList = '/' :: rest := hrest.symm
  unfold read
  rw [htext]
  split
  · rfl
  · cases hpath : readPath ('/' :: rest) <;> simp [hpath, bind, Except.bind, Except.map]

theorem read_eq_ok_of_opens (h : Text.Opens "/" text) : read text = .ok u ↔ text.utf8ByteSize ≤ 65534 ∧
    ∃ path query, readPath text.toList = .ok (path, query) ∧ u = ⟨none, "", path, query⟩ := by
  rw [read_of_opens h, ← Nat.not_lt]
  split
  · next hlong => exact ⟨fun h => (nomatch h), fun h => absurd hlong h.1⟩
  · next hshort =>
    cases hpath : readPath text.toList with
    | error e => exact ⟨fun h => (nomatch h), fun ⟨_, _, _, h, _⟩ => (nomatch h)⟩
    | ok found =>
      obtain ⟨path, query⟩ := found
      simp [Except.map, hshort, eq_comm]

theorem read_of_read_query {written : String} (hopens : Text.Opens "/" text) (hquery : '?' ∉ text.toList)
    (hfragment : '#' ∉ text.toList) (hwritten : '#' ∉ written.toList) (h : read (text ++ "?" ++ written) = .ok u) :
    read text = .ok { u with query := none } ∧ u.query = some written := by
  have htext : (text ++ "?" ++ written).toList = text.toList ++ '?' :: written.toList := by simp
  have hfull : Text.Opens "/" (text ++ "?" ++ written) := by
    unfold Text.Opens
    rw [htext]
    exact hopens.trans (List.prefix_append _ _)
  obtain ⟨hsize, path, query, hpath, rfl⟩ := (read_eq_ok_of_opens hfull).mp h
  rw [htext, readPath_append hquery hfragment hwritten] at hpath
  split at hpath
  · next hvalid =>
    cases hpath
    rw [String.utf8ByteSize_append, String.utf8ByteSize_append] at hsize
    refine ⟨(read_eq_ok_of_opens hopens).mpr ⟨by omega, _, none, ?_, rfl⟩, congrArg some String.ofList_toList⟩
    rw [readPath_of_not_mem hquery hfragment, if_pos (Bool.and_eq_true_iff.mp hvalid).1]
  · cases hpath

theorem read_of_read_more {written : String} (hopens : Text.Opens "/" text) (hquery : '?' ∈ text.toList)
    (hfragment : '#' ∉ text.toList) (hwritten : '#' ∉ written.toList) (h : read (text ++ "&" ++ written) = .ok u) :
    ∃ query, read text = .ok { u with query := some query } ∧ u.query = some (query ++ "&" ++ written) := by
  obtain ⟨path, query, hsplit, hfirst⟩ := List.eq_append_cons_of_mem hquery
  have htext : (text ++ "&" ++ written).toList = path ++ '?' :: (query ++ '&' :: written.toList) := by simp [hsplit]
  have hfull : Text.Opens "/" (text ++ "&" ++ written) := by
    unfold Text.Opens
    rw [String.toList_append, String.toList_append, List.append_assoc]
    exact hopens.trans (List.prefix_append _ _)
  rw [hsplit, List.mem_append, List.mem_cons, not_or, not_or] at hfragment
  obtain ⟨hpathFragment, -, hqueryFragment⟩ := hfragment
  have hmore : '#' ∉ query ++ '&' :: written.toList := by
    rw [List.mem_append, List.mem_cons, not_or, not_or]
    exact ⟨hqueryFragment, by decide, hwritten⟩
  obtain ⟨hsize, _, _, hpath, rfl⟩ := (read_eq_ok_of_opens hfull).mp h
  rw [htext, readPath_append hfirst hpathFragment hmore] at hpath
  split at hpath
  · next hvalid =>
    cases hpath
    obtain ⟨hpathValid, hqueryValid⟩ := Bool.and_eq_true_iff.mp hvalid
    rw [List.all_append] at hqueryValid
    rw [String.utf8ByteSize_append, String.utf8ByteSize_append] at hsize
    refine ⟨String.ofList query, (read_eq_ok_of_opens hopens).mpr ⟨by omega, _, _, ?_, rfl⟩, ?_⟩
    · rw [hsplit, readPath_append hfirst hpathFragment hqueryFragment, hpathValid,
        (Bool.and_eq_true_iff.mp hqueryValid).1]
      rfl
    · exact congrArg some (String.toList_inj.mp (by simp))
  · cases hpath

end Uri

theorem Query.not_mem_writePairs (pairs : List (String × String)) : '#' ∉ (Query.writePairs pairs).toList := by
  have hbyte : ∀ b, '#' ∉ Query.encodeByte b := Text.forall_byte (by decide +kernel)
  have hencode : ∀ s, '#' ∉ (Query.encode s).toList := fun s h => by
    rw [Query.encode, String.toList_ofList] at h
    obtain ⟨b, -, hb⟩ := List.mem_flatMap.mp h
    exact hbyte b hb
  have hpair : ∀ pair, '#' ∉ (Query.writePair pair).toList := fun pair => by simp [Query.writePair, hencode]
  induction pairs with
  | nil => decide
  | cons pair pairs ih =>
    cases pairs with
    | nil => exact hpair pair
    | cons next pairs =>
      have hwritten : Query.writePairs (pair :: next :: pairs) =
          Query.writePair pair ++ "&" ++ Query.writePairs (next :: pairs) := String.intercalate_cons_cons
      rw [hwritten]
      simp [hpair, ih]

namespace Trial.Draft

variable {d : Draft} {r : Request} {members : List (String × Json)}

theorem queryPairs_of_build (hopens : Text.Opens "/" d.uri) (hfragment : '#' ∉ d.uri.toList) (h : d.build = .ok r) :
    ∃ u, Uri.read d.uri = .ok u ∧ r.queryPairs = ({ r with uri := u } : Request).queryPairs ++ d.query := by
  obtain ⟨-, uri, headers, huri, -, rfl⟩ := build_eq_ok_iff.mp h
  have hwritten := Query.not_mem_writePairs d.query
  unfold fullUri at huri
  split at huri
  · next hempty =>
    rw [List.isEmpty_iff.mp hempty]
    exact ⟨uri, huri, (List.append_nil _).symm⟩
  · split at huri
    · next hquery =>
      obtain ⟨query, hread, huri⟩ :=
        Uri.read_of_read_more hopens (List.contains_iff_mem.mp hquery) hfragment hwritten huri
      refine ⟨_, hread, ?_⟩
      have hand : Text.utf8 "&" = [38] := Text.utf8_of_ascii (by decide)
      simp only [Request.queryPairs, huri]
      rw [Text.utf8_append, Text.utf8_append, hand, List.append_assoc, List.singleton_append, Query.readPairs_append,
        Query.readPairs_writePairs]
    · next hquery =>
      obtain ⟨hread, huri⟩ :=
        Uri.read_of_read_query hopens (mt List.contains_iff_mem.mpr hquery) hfragment hwritten huri
      refine ⟨_, hread, ?_⟩
      simp only [Request.queryPairs, huri]
      rw [Query.readPairs_writePairs, List.nil_append]

/-- The values that a form can hold under a name: a text, or several texts. -/
inductive FormValue : Json → Prop
  | text (text : String) : FormValue (.string text)
  | texts (first : String) (rest : List String) : FormValue (.strings (first :: rest))

def fieldValues : Json → List Json
  | .array items => items
  | v => [v]

theorem formMember_eq (name : String) {v : Json} (h : FormValue v) :
    (formMember name v).map (fun (key, text) => (key, Json.string text)) = (fieldValues v).map fun w => (name, w) := by
  cases h with
  | text text => rfl
  | texts first rest => simp [formMember, formText, fieldValues, Json.strings]

theorem valuesOf_flatMap (k : String) (distinct : (members.map Prod.fst).Nodup) :
    Query.valuesOf k (members.flatMap fun (name, v) => (fieldValues v).map fun w => (name, w)) =
      (members.lookup k).elim [] fieldValues := by
  induction members with
  | nil => rfl
  | cons e members ih =>
    obtain ⟨name, v⟩ := e
    obtain ⟨hfresh, hrest⟩ := List.nodup_cons.mp distinct
    rw [List.flatMap_cons, Query.valuesOf_append, ih hrest, Named.lookup_cons_ite]
    by_cases hk : k = name
    · subst hk
      rw [if_pos rfl, Named.lookup_eq_none_iff_not_mem.mpr hfresh]
      simp [Query.valuesOf, List.filterMap_map]
    · rw [if_neg hk]
      simp [Query.valuesOf, List.filterMap_map, Ne.symm hk]

/-- The members of a form are made again of its pairs, where the keys that hold several values are forced. -/
theorem toMembers_formPairs {forced : List String} (ascending : Json.KeysAscending members)
    (values : ∀ e ∈ members, FormValue e.2) (forces : ∀ e ∈ members, (e.1 ∈ forced ↔ ∃ items, e.2 = .array items)) :
    Query.toMembers forced ((members.flatMap fun (name, v) => formMember name v).map
      fun (key, text) => (key, .string text)) = members := by
  have hpairs : ((members.flatMap fun (name, v) => formMember name v).map fun (key, text) => (key, Json.string text)) =
      members.flatMap fun (name, v) => (fieldValues v).map fun w => (name, w) := by
    rw [List.map_flatMap]
    exact List.flatMap_congr fun e he => formMember_eq e.1 (values e he)
  rw [hpairs]
  refine Named.Ascending.ext_of_lookup (Query.toMembers_ascending forced _) ascending fun k => ?_
  rw [Query.lookup_toMembers, valuesOf_flatMap k (Named.Ascending.distinct ascending)]
  cases hk : members.lookup k with
  | none => rfl
  | some v =>
    have hmem := Named.mem_of_lookup hk
    have hforced := forces _ hmem
    have hvalue := values _ hmem
    cases hvalue with
    | text text =>
      have hnot : k ∉ forced := fun h => by
        obtain ⟨items, hitems⟩ := hforced.mp h
        cases hitems
      simp [fieldValues, hnot]
    | texts first rest =>
      have hin : k ∈ forced := hforced.mpr ⟨_, rfl⟩
      simp [fieldValues, hin]

/-- What a draft writes is read again: the query behind the pairs of the URI, and a form as the members that it was
made of, where exactly the keys of lists are forced. -/
theorem read_written (d : Draft) :
    (∀ r, Text.Opens "/" d.uri → '#' ∉ d.uri.toList → d.build = .ok r →
      ∃ u, Uri.read d.uri = .ok u ∧ r.queryPairs = ({ r with uri := u } : Request).queryPairs ++ d.query) ∧
    ∀ r alsoPosted (s : Schema) members, d.build = .ok r → FormRules.carriesForm alsoPosted d.method = true →
      Json.KeysAscending members → (∀ e ∈ members, FormValue e.2) →
      (∀ e ∈ members, (e.1 ∈ s.forceListKeys ↔ ∃ items, e.2 = .array items)) →
      ∃ r', (d.withForm (.object members)).build = .ok r' ∧
        ∀ slot, (BodyParser.form alsoPosted).read r'.body r' s slot = .ok (.object members, slot) := by
  refine ⟨fun r hopens hfragment h => queryPairs_of_build hopens hfragment h, ?_⟩
  intro r alsoPosted s members h hcarries ascending values forces
  have hvalue : headerValue "application/x-www-form-urlencoded" =
      .ok (Text.utf8 "application/x-www-form-urlencoded") := by decide +kernel
  obtain ⟨r', hbuild, hmethod, hbody, -⟩ := exists_build_withContent h
    (Text.utf8 (Query.writePairs (members.flatMap fun (name, v) => formMember name v))) hvalue
  refine ⟨r', hbuild, fun slot => ?_⟩
  rw [BodyParser.read_form, hmethod, if_pos hcarries, hbody, Query.readPairs_writePairs,
    toMembers_formPairs ascending values forces]

def search : Draft where
  method := "POST"
  uri := "/find?x=1&&y"
  query := [("a b", "c&d=é"), ("", "+%"), ("a b", "")]

def searched : Request where
  method := "POST"
  uri := ⟨none, "", "/find", some "x=1&&y&a%20b=c%26d%3D%C3%A9&=%2B%25&a%20b="⟩
  headers := .empty
  body := []

def tagged : List (String × Json) := [("", .string "&="), ("note", .string "1+1"), ("tags", .strings ["a", ""])]

def tagging : Schema := .object { name := "Note", fields := [], forceList := ["tags"] }

theorem read_written_search : search.build = .ok searched ∧
    searched.queryPairs = [("x", "1"), ("y", ""), ("a b", "c&d=é"), ("", "+%"), ("a b", "")] ∧
    ∃ r, (search.withForm (.object tagged)).build = .ok r ∧
      ∀ slot, (BodyParser.form []).read r.body r tagging slot =
        .ok (.object tagged, slot) := by
  have hbuild : search.build = .ok searched :=
    build_eq_ok_iff.mpr ⟨rfl, searched.uri, .empty, by decide +kernel, rfl, rfl⟩
  obtain ⟨u, hu, hpairs⟩ := (read_written search).1 searched ⟨_, rfl⟩ (by decide) hbuild
  have hread : Uri.read search.uri = .ok ⟨none, "", "/find", some "x=1&&y"⟩ := by decide +kernel
  cases hu.symm.trans hread
  have hown : Query.readPairs (Text.utf8 "x=1&&y") = [("x", "1"), ("y", "")] := by decide +kernel
  refine ⟨hbuild, hpairs.trans (congrArg (· ++ search.query) hown), ?_⟩
  refine (read_written search).2 searched [] tagging tagged hbuild rfl ?_ ?_ ?_
  · unfold tagged Json.KeysAscending
    decide
  · simp only [tagged, List.forall_mem_cons]
    exact ⟨.text _, .text _, .texts _ _, fun _ h => (nomatch h)⟩
  · simp [tagged, tagging, Schema.forceListKeys, Json.strings]

end Trial.Draft

end Accord
