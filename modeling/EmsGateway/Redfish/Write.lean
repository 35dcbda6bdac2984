import EmsGateway.Dispatch.CommandIdentity
import EmsGateway.Library.JsonPointer
import EmsGateway.Redfish.WriteCore

/-!
Does a Redfish write land where the read looks? The writer unescapes a token by replacing `~1` and
then `~0` in the whole of it, which reads its escapes as RFC 6901 does, and wraps the value from the
last token to the first; the reader walks the same tokens the other way.
-/

namespace EmsGateway.Redfish

open EmsGateway.App EmsGateway.Dispatch EmsGateway.Library

/-! Escapes -/

section Escapes

variable (rest : List Char)

theorem replaceFrom_match (digit meant : Char) :
    replaceFrom ['~', digit] [meant] 0 ('~' :: digit :: rest) =
      meant :: replaceFrom ['~', digit] [meant] 0 rest := by
  simp [replaceFrom]

theorem replaceFrom_other {digit : Char} (meant : Char) {c : Char}
    (different : c ≠ '~' ∨ rest.head? ≠ some digit) :
    replaceFrom ['~', digit] [meant] 0 (c :: rest) =
      c :: replaceFrom ['~', digit] [meant] 0 rest := by
  have unmatched : ['~', digit].isPrefixOf (c :: rest) = false := by
    cases rest with
    | nil => simp [List.isPrefixOf]
    | cons d later =>
        simp only [List.head?_cons, ne_eq, Option.some.injEq] at different
        simp only [List.isPrefixOf, Bool.and_true, Bool.and_eq_false_iff, beq_eq_false_iff_ne]
        rcases different with tilde | other
        · exact .inl (Ne.symm tilde)
        · exact .inr (Ne.symm other)
  rw [replaceFrom, if_neg (by simp [unmatched])]

end Escapes

/-- Replacing puts nothing but slashes where an escape stood, so no tilde comes to stand before a
zero that it did not stand before. -/
theorem head?_replaceFrom {token : List Char} (zero : token.head? ≠ some '0') :
    (replaceFrom ['~', '1'] ['/'] 0 token).head? ≠ some '0' := by
  cases token with
  | nil => simp [replaceFrom]
  | cons c rest =>
      rw [replaceFrom]
      split
      · simp
      · simpa using zero

theorem replaceFrom_replaceFrom (token : List Char) :
    replaceFrom ['~', '0'] ['~'] 0 (replaceFrom ['~', '1'] ['/'] 0 token) =
      JsonPointer.decodeToken token := by
  fun_induction JsonPointer.decodeToken token with
  | case1 rest ih =>
      rw [replaceFrom_match, replaceFrom_other _ _ (.inl (by decide)), ih]
  | case2 rest ih =>
      have kept : replaceFrom ['~', '1'] ['/'] 0 ('~' :: '0' :: rest) =
          '~' :: '0' :: replaceFrom ['~', '1'] ['/'] 0 rest := by
        rw [replaceFrom_other _ _ (.inr (by simp)), replaceFrom_other _ _ (.inl (by decide))]
      rw [kept, replaceFrom_match, ih]
  | case3 c rest one zero ih =>
      have first : c ≠ '~' ∨ rest.head? ≠ some '1' := by
        by_contra both
        rw [not_or, not_not, not_not] at both
        obtain ⟨later, same⟩ := List.head?_eq_some_iff.mp both.2
        exact one later both.1 same
      have second : c ≠ '~' ∨ rest.head? ≠ some '0' := by
        by_contra both
        rw [not_or, not_not, not_not] at both
        obtain ⟨later, same⟩ := List.head?_eq_some_iff.mp both.2
        exact zero later both.1 same
      rw [replaceFrom_other _ _ first,
        replaceFrom_other _ _ (second.imp_right head?_replaceFrom), ih]
  | case4 => rfl

theorem toList_unescape (token : List Char) :
    (unescape token).toList = JsonPointer.decodeToken token := by
  rw [← replaceFrom_replaceFrom]
  exact String.toList_ofList

/-! Pointers -/

def IsPointer (pointer : String) : Prop := pointer = "" ∨ ∃ rest, pointer.toList = '/' :: rest

def wrap (name : List Char) (value : Json) : Json := .object [(String.ofList name, value)]

theorem nest_eq (pointer : String) (value : Json) :
    nest pointer value = (JsonPointer.tokensOf pointer.toList).foldr
      (fun token inner => wrap (JsonPointer.decodeToken token) inner) value := by
  unfold nest JsonPointer.tokensOf wrap
  dsimp only
  rw [List.foldl_reverse, splitSlash_eq_splitOn]
  simp only [← toList_unescape, String.ofList_toList]

/-- An array index of RFC 6901: digits without leading zeros. -/
def arrayIndex (name : List Char) : Option ℕ :=
  if name = ['0'] then some 0
  else if name ≠ [] ∧ name.all Char.isDigit ∧ name.head? ≠ some '0' then
    some (name.foldl (fun index digit => index * 10 + (digit.toNat - '0'.toNat)) 0)
  else none

def Json.child (value : Json) (name : List Char) : Option Json :=
  match value with
  | .object members => members.lookup (String.ofList name)
  | .array items => (arrayIndex name).bind fun index => items[index]?
  | _ => none

theorem child_wrap (name : List Char) (value : Json) :
    (wrap name value).child name = some value := by
  simp [wrap, Json.child]

/-- What `Value::pointer` documents: RFC 6901. -/
def FollowsRfc6901 (lookup : Json → String → Option Json) : Prop :=
  JsonPointer.Follows Json.child fun document pointer => lookup document (String.ofList pointer)

def pointer (document : Json) (text : String) : Option Json :=
  JsonPointer.resolve Json.child document (JsonPointer.tokensOf text.toList)

theorem followsRfc6901_pointer : FollowsRfc6901 pointer := by
  unfold FollowsRfc6901 pointer
  simp only [String.toList_ofList]
  exact JsonPointer.follows_resolve_tokensOf Json.child

theorem lookup_nest {lookup : Json → String → Option Json} (follows : FollowsRfc6901 lookup)
    {text : String} (shaped : IsPointer text) (value : Json) :
    lookup (nest text value) text = some value := by
  have spelled : JsonPointer.spell (JsonPointer.tokensOf text.toList) = text.toList := by
    apply JsonPointer.spell_tokensOf
    rcases shaped with rfl | slash
    · exact .inl rfl
    · exact .inr slash
  have apart : ∀ token ∈ JsonPointer.tokensOf text.toList, '/' ∉ token := by
    intro token member
    have piece := List.mem_of_mem_drop member
    rw [← splitSlash_eq_splitOn] at piece
    exact slash_notMem_splitSlash piece
  have walked := follows (nest text value) _ apart
  dsimp only at walked
  rw [spelled, String.ofList_toList] at walked
  rw [walked, nest_eq]
  exact JsonPointer.resolve_foldr child_wrap value _

/-- A value is written under the very names that a pointer escapes. -/
theorem nest_names (names : List (List Char)) (value : Json) :
    nest (String.ofList (JsonPointer.spell (names.map JsonPointer.encodeToken))) value =
      names.foldr wrap value := by
  have apart : ∀ token ∈ names.map JsonPointer.encodeToken, '/' ∉ token := by
    intro token member
    obtain ⟨name, _, rfl⟩ := List.mem_map.mp member
    exact JsonPointer.slash_notMem_encodeToken name
  rw [nest_eq, String.toList_ofList, JsonPointer.tokensOf_spell apart, List.foldr_map]
  simp only [JsonPointer.decodeToken_encodeToken]

/-! Writes and reads -/

section Writes

variable (service : Service) {b : RedfishBinding} (value : ℚ) (trust : Option DeviceTrust)
  (creds : Option GatewayCredentials)

/-- A write fails before anything is sent, or sends one PATCH. -/
theorem writeSetpoint_cases :
    ((writeSetpoint service b value trust creds).sent = [] ∧
      ∃ error, (writeSetpoint service b value trust creds).result = .error error) ∨
    ∃ scheme text, b.jsonPointer = some text ∧
      (writeSetpoint service b value trust creds).sent = [patchAt b scheme text value] := by
  unfold writeSetpoint
  cases named : b.jsonPointer with
  | none => exact .inl ⟨rfl, _, rfl⟩
  | some text =>
      cases client : clientAndScheme service trust creds with
      | error message => exact .inl ⟨rfl, _, rfl⟩
      | ok scheme =>
          refine .inr ⟨scheme, text, rfl, ?_⟩
          dsimp only
          split
          · rfl
          · split <;> rfl

theorem writeSetpoint_sent {text : String} (named : b.jsonPointer = some text) {patch : Patch}
    (sent : patch ∈ (writeSetpoint service b value trust creds).sent) :
    patch.body = nest text (quotient value b.scale) := by
  rcases writeSetpoint_cases service value trust creds with ⟨none, _⟩ | ⟨scheme, used, same, one⟩
  · rw [none] at sent
    exact absurd sent List.not_mem_nil
  · rw [one] at sent
    rw [List.mem_singleton.mp sent, ← Option.some.inj (named.symm.trans same)]
    rfl

theorem sent_of_writeSetpoint_ok
    (done : (writeSetpoint service b value trust creds).result = .ok ()) :
    ∃ patch, (writeSetpoint service b value trust creds).sent = [patch] := by
  rcases writeSetpoint_cases service value trust creds with
    ⟨_, error, failed⟩ | ⟨scheme, used, _, one⟩
  · rw [failed] at done
    exact absurd done (by simp)
  · exact ⟨_, one⟩

theorem extract_nest {lookup : Json → String → Option Json} (follows : FollowsRfc6901 lookup)
    {text : String} (named : b.jsonPointer = some text) (shaped : IsPointer text)
    (nonzero : b.scale ≠ 0) :
    extract lookup (nest text (quotient value b.scale)) b = .ok (.number value) := by
  have found := lookup_nest follows shaped (quotient value b.scale)
  rw [quotient, if_neg nonzero] at found ⊢
  have back : value / b.scale * b.scale = value := div_mul_cancel₀ value nonzero
  simp only [extract, named, found]
  change Except.ok (Raw.number (value / b.scale * b.scale)) = .ok (.number value)
  rw [back]

end Writes

theorem write_lands_where_read (lookup : Json → String → Option Json)
    (follows : FollowsRfc6901 lookup) (text : String) (shaped : IsPointer text) :
    (∀ value, lookup (nest text value) text = some value) ∧
    ∀ (service : Service) (b : RedfishBinding) (value : ℚ) (trust : Option DeviceTrust)
      (creds : Option GatewayCredentials), b.jsonPointer = some text → b.scale ≠ 0 →
      (∀ patch ∈ (writeSetpoint service b value trust creds).sent,
        extract lookup patch.body b = .ok (.number value)) ∧
      ((writeSetpoint service b value trust creds).result = .ok () →
        ∃ patch, (writeSetpoint service b value trust creds).sent = [patch]) := by
  refine ⟨lookup_nest follows shaped, ?_⟩
  intro service b value trust creds named nonzero
  refine ⟨?_, sent_of_writeSetpoint_ok service value trust creds⟩
  intro patch sent
  rw [writeSetpoint_sent service value trust creds named sent]
  exact extract_nest value follows named shaped nonzero

/-! A limit under the name `a/b~`, and after it one without a name. -/

def escapedLimit : RedfishBinding where
  host := "127.0.0.1"
  port := 8443
  uri := "/Systems/HGX_Baseboard_0"
  jsonPointer := some "/a~1b~0/"
  scale := 1 / 1000

def accepting : Service where
  httpsClient := fun _ => .ok ()
  plainClient := .ok ()
  send := fun _ => .ok 200

theorem write_lands_where_read_escaped :
    pointer (nest "/a~1b~0/" (.bool true)) "/a~1b~0/" = some (.bool true) ∧
    nest "/a~1b~0/" (.bool true) = .object [("a/b~", .object [("", .bool true)])] ∧
    (writeSetpoint accepting escapedLimit 700 none none).sent.map
        (fun patch => extract pointer patch.body escapedLimit) = [.ok (.number 700)] := by
  obtain ⟨resolved, read⟩ := write_lands_where_read pointer followsRfc6901_pointer "/a~1b~0/"
    (.inr ⟨"a~1b~0/".toList, by decide⟩)
  refine ⟨resolved (.bool true), ?_, ?_⟩
  · exact nest_names ["a/b~".toList, []] (.bool true)
  · obtain ⟨lands, one⟩ := read accepting escapedLimit 700 none none rfl (by decide +kernel)
    obtain ⟨patch, sent⟩ := one rfl
    rw [sent, List.map_singleton, lands patch (by rw [sent]; exact List.mem_singleton_self patch)]

end EmsGateway.Redfish
