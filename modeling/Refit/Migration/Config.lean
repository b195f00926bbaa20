import Refit.Migration

namespace Refit

structure Config where
  name : Text
  description : Text
  language : Text
  extensions : List Text
  excluded : List Text
  rules : List RuleSpec
  deriving Repr, DecidableEq

namespace Config

def defaultLanguage : Text := "java".toList

def defaultExcluded : List Text :=
  ["**/.git/**".toList, "**/target/**".toList, "**/build/**".toList]

def new (name description : Text) : Config where
  name
  description
  language := defaultLanguage
  extensions := []
  excluded := defaultExcluded
  rules := []

def matcher (c : Config) (l : Language) : Matcher where
  extensions := if c.extensions.isEmpty then l.extensions.map String.toList else c.extensions
  excluded := c.excluded

/-- The migration that is written down, if it has a name, rules, a known language, and each of its
rules can be built. -/
def toMigration (c : Config) : Except Failure Migration := do
  if Text.trim c.name = [] then throw (.invalid .unnamed)
  if c.rules.isEmpty then throw (.invalid (.noRules c.name))
  match Language.byName? c.language with
  | none => throw (.unsupportedLanguage c.language)
  | some language =>
    let m : Migration :=
      { name := c.name, description := c.description, matcher := c.matcher language, language
        specs := c.rules }
    let _ ← m.pipeline
    return m

end Config

structure FieldReader (φ : Type) where
  text? : φ → Option Text
  texts? : φ → Option (List Text)
  rules? : φ → Option (List RuleSpec)

namespace Config

def fieldNames : List String :=
  ["name", "description", "language", "extensions", "exclude_patterns", "rules"]

def isField (name : Text) : Bool := fieldNames.any fun f => f.toList == name

def field? {φ : Type} (fields : List (Text × φ)) (name : String) : Option φ :=
  fields.lookup name.toList

def fieldOr {φ α : Type} (fields : List (Text × φ)) (name : String) (read? : φ → Option α)
    (default : α) : Option α :=
  match field? fields name with
  | none => some default
  | some v => read? v

def ofFields? {φ : Type} (r : FieldReader φ) (fields : List (Text × φ)) : Option Config := do
  let known := (fields.map Prod.fst).filter isField
  if known.eraseDups.length < known.length then none
  else
    let name ← (field? fields "name").bind r.text?
    let description ← fieldOr fields "description" r.text? []
    let language ← fieldOr fields "language" r.text? defaultLanguage
    let extensions ← fieldOr fields "extensions" r.texts? []
    let excluded ← fieldOr fields "exclude_patterns" r.texts? defaultExcluded
    let rules ← (field? fields "rules").bind r.rules?
    return { name, description, language, extensions, excluded, rules }

end Config

end Refit
