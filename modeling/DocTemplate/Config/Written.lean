import DocTemplate.Config.Basic
import DocTemplate.Json.Fields
import DocTemplate.Json.Reading
import DocTemplate.Value.Writing

/-!
# Settings as JSON

Settings are read from JSON. What is not written takes its default.

## Main definitions

* `Config.read?` — the settings of a JSON text.
* `Config.json` — the JSON text of settings.
-/

namespace DocTemplate

namespace Config

/-- A field that may be missing. -/
def orDefault {α : Type} (default : α) (read : Json → Option α) : Option Json → Option α
  | none => some default
  | some j => read j

/-- A truth value. -/
def bool? : Json → Option Bool
  | .boolean b => some b
  | _ => none

/-- A natural number of 64 bits. -/
def word? : Json → Option Nat
  | .number n => n.word?
  | _ => none

/-- A natural number of 64 bits, or null for none. -/
def optionalWord? : Json → Option (Option Nat)
  | .null => some none
  | j => (word? j).map some

/-- The settings of the cache in a JSON document. -/
def cacheOfJson? (j : Json) : Option CacheConfig := do
  let [maxEntries, ttlMillis] ← Json.fields? ["max_entries", "ttl_millis"] j | none
  let maxEntries ← orDefault 256 word? maxEntries
  let ttlMillis ← orDefault none optionalWord? ttlMillis
  some { maxEntries, ttlMillis }

/-- The settings in a JSON document. -/
def ofJson? (j : Json) : Option Config := do
  let [cacheEnabled, cache, bindingErrors] ←
    Json.fields? ["cache_enabled", "cache", "binding_errors"] j | none
  let cacheEnabled ← orDefault true bool? cacheEnabled
  let cache ← orDefault {} cacheOfJson? cache
  let bindingErrors ←
    orDefault .empty (fun j => (Json.choice? 1 j).bind BindingErrors.ofName?) bindingErrors
  some { cacheEnabled, cache, bindingErrors }

/-- The settings of a JSON text. -/
def read? (text : String) : Option Config :=
  (Json.read? text).bind ofJson?

/-- The JSON text of settings. -/
def json (c : Config) : String :=
  let field (name : String) (text : List Char) := jsonString name ++ ':' :: text
  let ttl :=
    match c.cache.ttlMillis with
    | some n => Nat.toDigits 10 n
    | none => "null".toList
  let cache :=
    '{' :: field "max_entries" (Nat.toDigits 10 c.cache.maxEntries)
      ++ ',' :: field "ttl_millis" ttl ++ ['}']
  String.ofList
    ('{' :: field "cache_enabled" (if c.cacheEnabled then "true" else "false").toList
      ++ ',' :: field "cache" cache
      ++ ',' :: field "binding_errors" (jsonString c.bindingErrors.name) ++ ['}'])

end Config

end DocTemplate
