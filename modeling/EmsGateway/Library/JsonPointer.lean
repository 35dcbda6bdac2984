import Mathlib.Data.List.Basic

/-!
JSON Pointers (RFC 6901) into documents of any kind. A pointer spells a list of reference tokens,
each after a slash, and a token names a member once its escapes are read: `~1` is a slash and `~0`
a tilde. What is wrapped along a pointer, innermost first, is found again by walking it.
-/

namespace EmsGateway.Library.JsonPointer

/-! Tokens -/

def decodeToken : List Char → List Char
  | '~' :: '1' :: rest => '/' :: decodeToken rest
  | '~' :: '0' :: rest => '~' :: decodeToken rest
  | c :: rest => c :: decodeToken rest
  | [] => []

def encodeChar (c : Char) : List Char :=
  if c = '~' then ['~', '0'] else if c = '/' then ['~', '1'] else [c]

def encodeToken (name : List Char) : List Char := name.flatMap encodeChar

theorem decodeToken_cons {c : Char} (plain : c ≠ '~') (rest : List Char) :
    decodeToken (c :: rest) = c :: decodeToken rest := by
  rw [decodeToken]
  · intro _ tilde
    exact absurd tilde plain
  · intro _ tilde
    exact absurd tilde plain

theorem decodeToken_encodeToken (name : List Char) : decodeToken (encodeToken name) = name := by
  induction name with
  | nil => rfl
  | cons c rest ih =>
      have first : encodeToken (c :: rest) = encodeChar c ++ encodeToken rest := rfl
      rw [first, encodeChar]
      split
      · rename_i tilde
        rw [tilde]
        simp only [List.cons_append, List.nil_append, decodeToken, ih]
      · rename_i plain
        split
        · rename_i slash
          rw [slash]
          simp only [List.cons_append, List.nil_append, decodeToken, ih]
        · rw [List.singleton_append, decodeToken_cons plain, ih]

theorem slash_notMem_encodeToken (name : List Char) : '/' ∉ encodeToken name := by
  intro member
  obtain ⟨c, _, encoded⟩ := List.mem_flatMap.mp member
  unfold encodeChar at encoded
  split at encoded
  · simp at encoded
  · split at encoded
    · simp at encoded
    · rename_i slash
      exact slash (List.mem_singleton.mp encoded).symm

/-! Pointers -/

def spell (tokens : List (List Char)) : List Char := tokens.flatMap fun token => '/' :: token

def tokensOf (pointer : List Char) : List (List Char) := (pointer.splitOn '/').drop 1

theorem spell_eq_intercalate {tokens : List (List Char)} (nonempty : tokens ≠ []) :
    spell tokens = '/' :: ['/'].intercalate tokens := by
  induction tokens with
  | nil => exact absurd rfl nonempty
  | cons token rest ih =>
      have first : spell (token :: rest) = '/' :: token ++ spell rest := rfl
      rw [first]
      cases rest with
      | nil => simp [spell]
      | cons next later =>
          rw [ih (List.cons_ne_nil _ _), List.intercalate_cons_cons]
          simp

theorem tokensOf_slash (rest : List Char) : tokensOf ('/' :: rest) = rest.splitOn '/' := by
  simp [tokensOf, List.splitOn_cons_eq_if_modifyHead]

theorem spell_tokensOf {pointer : List Char}
    (shaped : pointer = [] ∨ ∃ rest, pointer = '/' :: rest) :
    spell (tokensOf pointer) = pointer := by
  rcases shaped with rfl | ⟨rest, rfl⟩
  · rfl
  · rw [tokensOf_slash, spell_eq_intercalate (List.splitOn_ne_nil '/' rest),
      List.intercalate_splitOn]

theorem tokensOf_spell {tokens : List (List Char)} (apart : ∀ token ∈ tokens, '/' ∉ token) :
    tokensOf (spell tokens) = tokens := by
  by_cases empty : tokens = []
  · rw [empty]
    rfl
  · rw [spell_eq_intercalate empty, tokensOf_slash, List.splitOn_intercalate '/' apart empty]

/-! Documents -/

section Documents

variable {δ : Type*} (child : δ → List Char → Option δ)

def resolve (document : δ) (tokens : List (List Char)) : Option δ :=
  tokens.foldlM (fun found token => child found (decodeToken token)) document

/-- A look-up by the text of a pointer that does what the tokens it spells say. -/
def Follows (lookup : δ → List Char → Option δ) : Prop :=
  ∀ document tokens, (∀ token ∈ tokens, '/' ∉ token) →
    lookup document (spell tokens) = resolve child document tokens

theorem follows_resolve_tokensOf :
    Follows child fun document pointer => resolve child document (tokensOf pointer) := by
  intro document tokens apart
  dsimp only
  rw [tokensOf_spell apart]

variable {child}

theorem resolve_foldr {wrap : List Char → δ → δ}
    (found : ∀ name value, child (wrap name value) name = some value) (value : δ)
    (tokens : List (List Char)) :
    resolve child (tokens.foldr (fun token inner => wrap (decodeToken token) inner) value) tokens =
      some value := by
  induction tokens with
  | nil => rfl
  | cons token rest ih =>
      rw [resolve, List.foldlM_cons, List.foldr_cons, found, Option.bind_eq_bind, Option.bind_some]
      exact ih

end Documents

end EmsGateway.Library.JsonPointer
