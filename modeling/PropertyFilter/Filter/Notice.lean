/-!
# Notices

Reading a configuration is lenient: what cannot be used is passed over, with a notice. Notices say
which part of the program they come from and have a text.

## Main definitions

* `Notice`: what is noticed
* `Notice.logger`, `Notice.message`: where it comes from and how it reads
* `Noticed`: a result together with the notices on the way to it
-/

namespace PropertyFilter

/-- Something passed over, or done, while a configuration is read. -/
inductive Notice where
  /-- A filter configured by a value of an unsupported type. -/
  | ignoredFilter (typeName : String)
  /-- An entry whose key stands for no type; the key is given as shown. -/
  | skippedKey (shown : String)
  /-- An entry whose value stands for no names. -/
  | skippedNames (typeKey typeName : String)
  /-- A configuration is complete: the numbers of global names and of types on both sides. -/
  | configured (excludes excludedTypes includes includedTypes : Nat)
  /-- A configuration file was read. -/
  | fileRead (path : String)
  deriving DecidableEq, Repr, Inhabited

namespace Notice

/-- The name under which a notice is logged. -/
def logger : Notice → String
  | ignoredFilter _ | skippedKey _ | skippedNames _ _ => "propfilter.config.filter_set"
  | configured _ _ _ _ => "propfilter.config.output_config"
  | fileRead _ => "propfilter.config.loader"

/-- The text of a notice. -/
def message : Notice → String
  | ignoredFilter typeName => "Ignoring filter configuration of unsupported type " ++ typeName
  | skippedKey shown => "Skipping filter entry with unsupported key " ++ shown
  | skippedNames typeKey typeName =>
    "Skipping filter entry for " ++ typeKey ++ " with unsupported value of type " ++ typeName
  | configured a b c d =>
    "Property filter configuration loaded: " ++ toString a ++ " global / " ++ toString b
      ++ " typed excludes, " ++ toString c ++ " global / " ++ toString d ++ " typed includes"
  | fileRead path => "Loaded property filter configuration from " ++ path

end Notice

/-- A result, or the reason why there is none, with the notices on the way to it. -/
structure Noticed (ε α : Type) where
  notices : List Notice
  outcome : Except ε α

namespace Noticed

variable {ε α β : Type}

/-- A result without notices. -/
def done (a : α) : Noticed ε α := ⟨[], .ok a⟩

/-- An outcome without notices. -/
def ofExcept (r : Except ε α) : Noticed ε α := ⟨[], r⟩

/-- A single notice. -/
def note (n : Notice) : Noticed ε Unit := ⟨[n], .ok ()⟩

/-- Goes on with a result and keeps the notices in order. -/
def andThen (x : Noticed ε α) (f : α → Noticed ε β) : Noticed ε β :=
  match x.outcome with
  | .ok a => ⟨x.notices ++ (f a).notices, (f a).outcome⟩
  | .error e => ⟨x.notices, .error e⟩

/-- Steps that follow one another collect their notices. -/
instance : Monad (Noticed ε) where
  pure := done
  bind := andThen

/-- Restates the reason for a failure. -/
def mapError {δ : Type} (f : ε → δ) (x : Noticed ε α) : Noticed δ α :=
  ⟨x.notices, match x.outcome with
    | .ok a => .ok a
    | .error e => .error (f e)⟩

end Noticed

end PropertyFilter
