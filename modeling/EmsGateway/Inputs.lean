import EmsGateway.Base

/-!
What the gateway has heard: the latest reading per MQTT topic (`synthetic::cache`), and the
`{site_id}` placeholder that topic templates carry (`inputs::substitute_site_id`).
A reading that is neither a number, a boolean nor a label keeps only the text it prints as.
-/

namespace EmsGateway

inductive Value where
  | number (value : ℚ)
  | bool (value : Bool)
  | str (label : String)
  | other (text : String)
  deriving DecidableEq, Repr

def asNumber (value : Value) : Option ℚ :=
  match value with
  | .number v => some v
  | .bool b => some (if b then 1 else 0)
  | _ => none

abbrev CacheEntry := Value × Instant

abbrev InputCache := String → Option CacheEntry

/-- `str::replace`: every match of the pattern from left to right. `skip` counts the characters
of the last match that are still to be passed over. -/
def replaceFrom (pattern replacement : List Char) : ℕ → List Char → List Char
  | _, [] => []
  | skip + 1, _ :: rest => replaceFrom pattern replacement skip rest
  | 0, c :: rest =>
      if pattern.isPrefixOf (c :: rest) then
        replacement ++ replaceFrom pattern replacement (pattern.length - 1) rest
      else c :: replaceFrom pattern replacement 0 rest

def substituteSiteId (template siteId : String) : String :=
  String.ofList (replaceFrom "\x7bsite_id\x7d".toList siteId.toList 0 template.toList)

example : substituteSiteId "sites/\x7bsite_id\x7d/devices/m" "acme" = "sites/acme/devices/m" := by
  decide +kernel

end EmsGateway
