import PluginBuild.Shell.Record.BuiltIns
import PluginBuild.Shell.Record.Reader
/-!
# Running record scripts

How expressions are evaluated and statements executed, and how the rules of a script run for the
records of its input.
-/

namespace PluginBuild.Shell.Record

/-- Keeps the record that has been read, and gives what tells whether there was one. -/
def received (target : Option Place) (result : Option String) : Running Value :=
  match result with
  | none => return .number 0
  | some text => do
    match target with
    | some place => place.put (.input text)
    | none => setRecord (.input text)
    return .number 1

/-- Runs a step in which the names of a function have slots with some contents. -/
def inFunction (parameters : List String) (cells : List Cell) (step : Running Unit) :
    Running Value := do
  let before := (← get).names
  let start := (← get).own.size
  let numbered := parameters.zipIdx.map fun (name, i) => (name, start + i)
  let missing := List.replicate (parameters.length - cells.length) Cell.unset
  modify fun m => { m with
    own := m.own ++ (cells.take parameters.length ++ missing).toArray
    names := numbered }
  let result ← attempt step
  modify fun m => { m with own := m.own.take start, names := before }
  match result with
  | .ok () => return .unset
  | .error (.leave value) => return value
  | .error interruption => throw interruption

/-- What a function is given for a name: a value, or else what may be a table. -/
def cellOf (m : Machine) (name : String) : Cell :=
  match m.found name with
  | .shared "NF" => .scalar (.ofNat m.fields.size)
  | slot =>
    match m.cell slot with
    | .scalar value => .scalar value
    | _ => .link slot

/-- Runs the body of a loop, and tells whether the loop goes on. -/
def round (body : Running Unit) : Running Bool := do
  match ← attempt body with
  | .ok () | .error .nextRound => return true
  | .error .endLoop => return false
  | .error interruption => throw interruption

mutual

/-- The value of an expression. -/
def evaluate : Nat → Expression → Running Value
  | 0, _ => throw .outOfSteps
  | fuel + 1, e => do
    let eval : Evaluation := ⟨evaluate fuel, placeOf fuel⟩
    match e with
    | .number x => return .number x
    | .text s => return .text s
    | .regex r =>
      return .ofBool (r.find? (← get).recordText.toList.toArray 0).isSome
    | .variable name => (Place.variable name).read
    | .element .. | .field _ => do (← eval.place e).read
    | .grouped [e] => eval.value e
    | .grouped es => do return .text (← eval.index es).shown
    | .assign operation target e =>
      let place ← eval.place target
      let value ← eval.value e
      match operation with
      | none =>
        place.put value
        return value
      | some operation =>
        let value := Value.number (operation.apply (← place.read).toNumber value.toNumber)
        place.put value
        return value
    | .step adds isAfter target =>
      let place ← eval.place target
      let x := (← place.read).toNumber
      let after := if adds then x + 1 else x - 1
      place.put (.number after)
      return .number (if isAfter then x else after)
    | .choice condition yes no =>
      if (← eval.value condition).isTrue then eval.value yes else eval.value no
    | .both a b =>
      if (← eval.value a).isTrue then return .ofBool (← eval.value b).isTrue
      else return .ofBool false
    | .oneOf a b =>
      if (← eval.value a).isTrue then return .ofBool true
      else return .ofBool (← eval.value b).isTrue
    | .negation e => return .ofBool !(← eval.value e).isTrue
    | .negative e => return .number (-(← eval.number e))
    | .positive e => return .number (← eval.number e)
    | .operate operation a b =>
      let x ← eval.number a
      let y ← eval.number b
      return .number (operation.apply x y)
    | .compare comparison a b =>
      let x ← eval.value a
      let y ← eval.value b
      return .ofBool (comparison.holds (x.order (← get).joinFormat y))
    | .join a b =>
      let s ← eval.text a
      let t ← eval.text b
      return .text (s ++ t)
    | .matching wanted text pattern =>
      let s ← eval.text text
      let regex ← eval.regex pattern
      return .ofBool ((regex.find? s.toList.toArray 0).isSome = wanted)
    | .isIn index table =>
      let index ← eval.index index
      let isThere ← modifyGet (·.changeTable table fun t =>
        ((t.get? index).isSome, t.seek index none))
      return .ofBool isThere
    | .builtIn function es => eval.call function es
    | .call name es =>
      match (← readThe Surroundings).functions.lookup name with
      | none => fail ("function " ++ name ++ " never defined")
      | some function =>
        let cells ← es.mapM fun e =>
          match e with
          | .variable name => return cellOf (← get) name
          | e => do return .scalar (← evaluate fuel e)
        inFunction function.parameters cells (function.body.forM (execute fuel))
    | .readRecord target =>
      let place ← target.mapM eval.place
      received place (← nextRecord? stepLimit)
    | .readFile target name =>
      let place ← target.mapM eval.place
      match ← recordUnder? false (← eval.text name) with
      | .error _ => return .number (-1)
      | .ok result => received place result
    | .readCommand target command =>
      let command ← eval.text command
      let place ← target.mapM eval.place
      match ← recordUnder? true command with
      | .error _ => return .number (-1)
      | .ok result => received place result

/-- The place that an expression names. -/
def placeOf : Nat → Expression → Running Place
  | 0, _ => throw .outOfSteps
  | fuel + 1, e => do
    let eval : Evaluation := ⟨evaluate fuel, placeOf fuel⟩
    match e with
    | .variable name => return .variable name
    | .field e => Place.ofField (← eval.value e)
    | .element table index =>
      let index ← eval.index index
      modifyGet (·.changeTable table fun t => ((), t.seek index (some .unset)))
      return .element table index
    | e => Place.ofField (← eval.value e)

/-- Executes a statement. -/
def execute : Nat → Statement → Running Unit
  | 0, _ => throw .outOfSteps
  | fuel + 1, s => do
    let eval : Evaluation := ⟨evaluate fuel, placeOf fuel⟩
    let holds (e : Expression) : Running Bool := return (← eval.value e).isTrue
    let printAt (target : Option (Destination × Expression)) (text : List Char) :
        Running Unit := do
      match target with
      | none => printHeld text
      | some (destination, name) => printTo destination (← eval.text name) text
    match s with
    | .nothing => return ()
    | .evaluate e => discard (eval.value e)
    | .print es target =>
      let texts ←
        if es.isEmpty then pure [(← get).recordText]
        else es.mapM fun e => do
          let value ← eval.value e
          return value.toText (← get).printFormat
      let m ← get
      printAt target ((m.sharedText "OFS").intercalate texts ++ m.sharedText "ORS").toList
    | .printFormat es target =>
      let (text, error) ← eval.format "printf" es
      printAt target text
      match error with
      | some message => fail message
      | none => return ()
    | .block statements => statements.forM (execute fuel)
    | .branch condition yes no =>
      if ← holds condition then execute fuel yes else execute fuel no
    | .loop condition body =>
      repeatWhile (do
        if ← holds condition then round (execute fuel body) else return false) stepLimit
    | .loopAfter body condition =>
      repeatWhile (do
        if ← round (execute fuel body) then holds condition else return false) stepLimit
    | .count start condition step body =>
      execute fuel start
      repeatWhile (do
        if ← condition.elim (pure true) holds then
          if ← round (execute fuel body) then
            execute fuel step
            return true
          else return false
        else return false) stepLimit
    | .each name table body =>
      let indices ← modifyGet (·.changeTable table fun t => t.indices)
      discard (indices.foldlM (fun goesOn index => do
        if goesOn then
          (Place.variable name).put (.text index)
          round (execute fuel body)
        else return false) true)
    | .next => throw .next
    | .nextFile => throw .nextFile
    | .exit status =>
      match status with
      | none => pure ()
      | some e =>
        let n := (wholePart? (← eval.number e)).getD 0
        modify fun m => { m with status := (n % 256).toNat }
      throw .exit
    | .leave value =>
      match value with
      | none => throw (.leave .unset)
      | some e => throw (.leave (← eval.value e))
    | .endLoop => throw .endLoop
    | .nextRound => throw .nextRound
    | .delete table none => modifyGet (·.changeTable table fun _ => ((), .empty))
    | .delete table (some index) =>
      let index ← eval.index index
      modifyGet (·.changeTable table fun t => ((), t.erase index))

end

/-- How deep expressions, statements and calls may be nested. -/
def nestingLimit : Nat := 100000

/-- Runs a rule, which has a number, for the record. -/
def runRule (number : Nat) (trigger : Trigger) (body : List Statement) : Running Unit := do
  let holds (e : Expression) : Running Bool := return (← evaluate nestingLimit e).isTrue
  let run : Running Unit := body.forM (execute nestingLimit)
  match trigger with
  | .atStart | .atEnd => return ()
  | .always => run
  | .at condition => if ← holds condition then run else return ()
  | .between first last =>
    let isInside : Bool := number ∈ (← get).between
    if isInside || (← holds first) then
      let isLast ← holds last
      modify fun m =>
        let others := m.between.filter (· ≠ number)
        { m with between := if isLast then others else number :: others }
      run
    else return ()

/-- Runs the rules for the next record, and tells whether there was one. -/
def runRules (rules : List (Trigger × List Statement)) : Running Bool := do
  match ← nextRecord? stepLimit with
  | none => return false
  | some text =>
    setRecord (.input text)
    match ← attempt (rules.zipIdx.forM fun ((trigger, body), i) => runRule i trigger body) with
    | .ok () | .error .next => return true
    | .error .nextFile =>
      modify fun m => { m with source := none }
      return true
    | .error interruption => throw interruption

/-- Runs a step, and tells whether it has not ended the script. -/
def unlessExit (step : Running Unit) : Running Bool := do
  match ← attempt step with
  | .ok () => return true
  | .error .exit => return false
  | .error interruption => throw interruption

/-- Runs the rules of a script. -/
def runScriptRules (rules : List (Trigger × List Statement)) : Running Unit := do
  let run (body : List Statement) : Running Unit := body.forM (execute nestingLimit)
  let first := rules.filterMap fun
    | (.atStart, body) => some body
    | _ => none
  let last := rules.filterMap fun
    | (.atEnd, body) => some body
    | _ => none
  let others := rules.filter fun
    | (.atStart, _) | (.atEnd, _) => false
    | _ => true
  if ← unlessExit (first.forM run) then
    if !others.isEmpty || !last.isEmpty then
      discard (unlessExit (repeatWhile (runRules others) stepLimit))
  discard (unlessExit (last.forM run))

end PluginBuild.Shell.Record
