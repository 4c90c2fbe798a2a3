import PropertyFilter.Session.Term

/-!
# Sessions

A session is a sequence of steps over a store: steps define and change values, build filters from
them, ask filters questions, and try to change filters, which never succeeds.

## Main definitions

* `Step`: the steps
* `Answer`, `StepError`: what a step answers
* `Step.run`: the effect of a step on a store, its answer and its notices
* `runSteps`: the answers of a sequence of steps
-/

namespace PropertyFilter

/-- One step of a session. -/
inductive Step where
  | define (name : String) (value : Term)
  | append (name : String) (member : Term)
  | put (name : String) (key member : Term)
  | get (name : String)
  | fromConfiguration (name : String) (raw : Term) (defaults : List Term)
  | ofParts (name : String) (globalNames namesByType : Option Term)
  | configure (name : String) (configuration : Term) (extraExcludes extraIncludes : Option Term)
  | newConfiguration (name : String) (configuration : Option Term)
  | takeSide (name filters : String) (side : Side)
  | matchesOwner (on : String) (owner property : Term)
  | matchesType (on : String) (typeId property : Term)
  | namesFor (on : String) (typeId : Term)
  | isEmpty (on : String)
  | snapshot (on : String)
  | same (on : String) (other : Term)
  | sameDigest (on : String) (other : Term)
  | assignField (on field : String) (value : Term)
  | assignType (on : String) (typeId names : Term)
  deriving Repr, Inhabited

/-- What a step answers. -/
inductive Answer where
  | done
  | value (v : Value)
  | flag (b : Bool)
  | filter (f : NameFilter)
  | filters (c : OutputFilters)
  /-- The step names something that an earlier step did not make. -/
  | skipped
  deriving Repr, Inhabited

/-- Why a step fails. -/
abbrev StepError := BuildError

/-- A store after a step, and the step's answer with its notices. -/
structure StepResult where
  store : Store
  answer : Noticed StepError Answer

namespace Step

/-- An answer that leaves the store as it was. -/
def answered (s : Store) (r : Except Fault Answer) : StepResult :=
  ⟨s, (Noticed.ofExcept r).mapError .fault⟩

/-- Names the thing that a step makes, if it makes one, and answers with it. -/
def bound (s : Store) (name : String) (item : Item) (answer : Answer)
    (notices : List Notice) : StepResult :=
  ⟨s.bind name item, ⟨notices, .ok answer⟩⟩

/-- Names a filter that a step makes. -/
def bindFilter (s : Store) (name : String) (made : Noticed StepError NameFilter) : StepResult :=
  match made.outcome with
  | .ok f => bound s name (.filter f) (.filter f) made.notices
  | .error e => ⟨s, ⟨made.notices, .error e⟩⟩

/-- Names a pair of filters that a step makes. -/
def bindFilters (s : Store) (name : String) (made : Noticed StepError OutputFilters) :
    StepResult :=
  match made.outcome with
  | .ok c => bound s name (.filters c) (.filters c) made.notices
  | .error e => ⟨s, ⟨made.notices, .error e⟩⟩

/-- Asks the thing under a name; what was not made is not asked. -/
def ask (s : Store) (name : String) (question : Item → Except Fault Answer) : StepResult :=
  match s.find? name with
  | none => ⟨s, .done .skipped⟩
  | some item => answered s (question item)

/-- Asks a filter; other things have no such question. -/
def askFilter (s : Store) (name : String) (question : NameFilter → Except Fault Answer) :
    StepResult :=
  ask s name fun
    | .filter f => question f
    | _ => .error .noSuchOperation

/-- Changes the value under a name; other things fail as told. -/
def changeValue (s : Store) (name : String) (otherwise : Fault)
    (f : Value → Except Fault Store) : StepResult :=
  match s.find? name with
  | none => ⟨s, .done .skipped⟩
  | some (.value v) =>
    match f v with
    | .ok s' => ⟨s', .done .done⟩
    | .error e => answered s (.error e)
  | some _ => answered s (.error otherwise)

/-- The thing that a term stands for; none if it is a name that stands for nothing. -/
def target? (s : Store) : Term → Option Item
  | .ref name => s.find? name
  | t => some (.value (t.eval s))

/-- A store with one more name: another name for a filter or a pair of filters, or a value. -/
def defined (s : Store) (name : String) (t : Term) : Store :=
  match target? s t with
  | some (.filter f) => s.bind name (.filter f)
  | some (.filters c) => s.bind name (.filters c)
  | _ => s.define name (t.eval s)

/-- Whether two things are the same; things of different sorts never are. -/
def sameItem : Item → Item → Bool
  | .filter f, .filter g => f.same g
  | .filters c, .filters d => c.same d
  | .value v, .value w => v.same w
  | _, _ => false

/-- The digest of a thing; a value has to be hashable. -/
def itemDigest : Item → Except Fault Int
  | .filter f => .ok f.digest
  | .filters c => .ok c.digest
  | .value v => if v.isHashable then .ok v.digest else .error .unsuitable

/-- Whether two things have the same digest. -/
def sameDigestItem (a b : Item) : Except Fault Bool := do
  return (← itemDigest a) == (← itemDigest b)

/-- Compares the thing under a name with another. -/
def compare (s : Store) (name : String) (other : Term)
    (f : Item → Item → Except Fault Bool) : StepResult :=
  match target? s other with
  | none => ⟨s, .done .skipped⟩
  | some o => ask s name fun item => (f item o).map .flag

/-- The value of an optional part. -/
def part (s : Store) (t : Option Term) : Option Value := t.map (Term.eval s)

/-- The effect of a step. -/
def run (s : Store) : Step → StepResult
  | define name t => ⟨defined s name t, .done .done⟩
  | append name t =>
    changeValue s name .noSuchOperation fun v => s.append name v (t.eval s)
  | put name k t => changeValue s name .unsuitable fun v => s.put name v (k.eval s) (t.eval s)
  | get name => ask s name fun
    | .value v => .ok (.value v)
    | .filter f => .ok (.filter f)
    | .filters c => .ok (.filters c)
  | fromConfiguration name raw defaults =>
    bindFilter s name
      ((NameFilter.fromConfiguration (raw.eval s) (Term.evalItems s defaults)).mapError .fault)
  | ofParts name globalNames namesByType =>
    bindFilter s name
      ((Noticed.ofExcept (NameFilter.ofParts (part s globalNames) (part s namesByType))).mapError
        .fault)
  | configure name configuration extraExcludes extraIncludes =>
    bindFilters s name
      (OutputFilters.build (configuration.eval s)
        ((part s extraExcludes).getD OutputFilters.noExtras)
        ((part s extraIncludes).getD OutputFilters.noExtras))
  | newConfiguration name configuration =>
    bindFilters s name
      (OutputFilters.build ((part s configuration).getD OutputFilters.noConfiguration)
        OutputFilters.noExtras OutputFilters.noExtras)
  | takeSide name filters side =>
    match s.find? filters with
    | none => ⟨s, .done .skipped⟩
    | some (.filters c) => bindFilter s name (.done (c.side side))
    | some _ => answered s (.error .noSuchOperation)
  | matchesOwner on owner property =>
    askFilter s on fun f => (f.matchesOwner (owner.eval s) (property.eval s)).map .flag
  | matchesType on typeId property =>
    askFilter s on fun f => (f.matchesType (typeId.eval s) (property.eval s)).map .flag
  | namesFor on typeId =>
    askFilter s on fun f => .ok (.value (.list none (f.namesFor (typeId.eval s))))
  | isEmpty on => askFilter s on fun f => .ok (.flag f.isEmpty)
  | snapshot on => ask s on fun
    | .filter f => f.snapshot.map .value
    | .filters c => c.snapshot.map .value
    | .value _ => .error .noSuchOperation
  | same on other => compare s on other fun a b => .ok (sameItem a b)
  | sameDigest on other => compare s on other sameDigestItem
  | assignField on _ _ => ask s on fun
    | .value _ => .error .noSuchOperation
    | _ => .error .frozen
  | assignType on _ _ => ask s on fun
    | .filter _ => .error .unsuitable
    | _ => .error .noSuchOperation

end Step

/-- The answers of a sequence of steps, and the store in the end. -/
def runSteps (s : Store) : List Step → List (Noticed StepError Answer) × Store
  | [] => ([], s)
  | step :: steps =>
    let r := step.run s
    let (answers, last) := runSteps r.store steps
    (r.answer :: answers, last)

@[simp] theorem runSteps_nil (s : Store) : runSteps s [] = ([], s) := rfl

theorem runSteps_append (s : Store) (xs ys : List Step) :
    runSteps s (xs ++ ys) =
      ((runSteps s xs).1 ++ (runSteps (runSteps s xs).2 ys).1,
        (runSteps (runSteps s xs).2 ys).2) := by
  induction xs generalizing s with
  | nil => simp
  | cons x xs ih => simp [runSteps, ih]

end PropertyFilter
