import RequestHub.Toml.Statement

/-!
# TOML documents

The statements of a text make up one table.  A table is made once: a key with points may go on only in
a table that was made by such keys, and a header may open a table again only if headers of tables
within it were all that made it.  A header between double brackets adds a table to an array, and later
headers and keys mean the table that was added last.
-/

namespace RequestHub.Toml

/-- How a table came to be. -/
inductive Origin where
  /-- Headers of tables within it made it. -/
  | implied
  /-- Keys with points made it. -/
  | dotted
  /-- It has a header or braces of its own. -/
  | stated
deriving DecidableEq, Repr

/-- A value while its text is read. -/
inductive Draft where
  | value (value : Value)
  | table (origin : Origin) (members : List (String × Draft))
  /-- An array of tables, the last of them first. -/
  | tables (last : List (String × Draft)) (others : List (List (String × Draft)))
deriving Inhabited

namespace Draft

/-- The members of a table while its text is read. -/
abbrev Members := Names Draft

/-! ## Binding keys -/

/--
Binds a key to a value in a table.  `last` tells whether the last part of the key may stand in the
table: it must not unless the table is the one the statement stands in or was made by keys with points.
-/
def bind (value : Value) : (last : Bool) → Key → Members → Option Members
  | _, [], _ => none
  | last, [name], members =>
      if last && !Names.contains name members then some (Names.insert name (.value value) members)
      else none
  | _, name :: part :: parts, members =>
      match Names.find? name members with
      | none => do
          let inner ← bind value true (part :: parts) []
          return Names.insert name (.table .dotted inner) members
      | some (.table .stated _) => none
      | some (.table origin inner) => do
          let inner ← bind value (origin = .dotted) (part :: parts) inner
          return Names.insert name (.table origin inner) members
      | some (.tables final others) => do
          let final ← bind value false (part :: parts) final
          return Names.insert name (.tables final others) members
      | some (.value _) => none

/-- Opens the table of a header, and lets a function write its members. -/
def openTable (write : Members → Option Members) (old : Option Draft) : Option Draft :=
  match old with
  | none => (write []).map (.table .stated)
  | some (.table .implied inner) => (write inner).map (.table .stated)
  | some _ => none

/-- Opens a further table of an array, and lets a function write its members. -/
def openFurther (write : Members → Option Members) (old : Option Draft) : Option Draft :=
  match old with
  | none => (write []).map fun final => .tables final []
  | some (.tables final others) => (write []).map fun next => .tables next (final :: others)
  | some _ => none

/-- Changes the draft to which the key of a header leads. -/
def change (make : Option Draft → Option Draft) : Key → Members → Option Members
  | [], _ => none
  | [name], members => do
      return Names.insert name (← make (Names.find? name members)) members
  | name :: part :: parts, members =>
      match Names.find? name members with
      | none => do
          return Names.insert name (.table .implied (← change make (part :: parts) [])) members
      | some (.table origin inner) => do
          return Names.insert name (.table origin (← change make (part :: parts) inner)) members
      | some (.tables final others) => do
          return Names.insert name (.tables (← change make (part :: parts) final) others) members
      | some (.value _) => none

/-! ## Finishing -/

mutual

/-- The value that a draft has become. -/
def finish : Draft → Value
  | .value held => held
  | .table _ members => .table (finishMembers members)
  | .tables final others => .array (finishTables others ++ [.table (finishMembers final)])

/-- The members that some drafts have become. -/
def finishMembers : List (String × Draft) → List (String × Value)
  | [] => []
  | (name, draft) :: members => (name, draft.finish) :: finishMembers members

/-- The tables that some drafts have become, the last of them last. -/
def finishTables : List (List (String × Draft)) → List Value
  | [] => []
  | members :: others => finishTables others ++ [.table (finishMembers members)]

end

end Draft

namespace Term

mutual

/-- The value of a term, if its tables bind every key once. -/
def value? : Term → Option Value
  | .plain value => some value
  | .array items => (values? items).map .array
  | .braces bindings => do
      return .table (Draft.finishMembers (← bound? bindings []))

/-- The values of some terms. -/
def values? : List Term → Option (List Value)
  | [] => some []
  | item :: items => do return (← item.value?) :: (← values? items)

/-- Members with some bindings added to them. -/
def bound? : List (Key × Term) → Draft.Members → Option Draft.Members
  | [], members => some members
  | (key, term) :: bindings, members => do
      bound? bindings (← Draft.bind (← term.value?) true key members)

end

end Term

namespace Document

/-- Members with the bindings up to the next header added to them, and the statements from there. -/
def write : List Statement → Draft.Members → Option Draft.Members
  | .binding key term :: statements, members => do
      write statements (← Draft.bind (← term.value?) true key members)
  | _, members => some members

/-- Members with what each header of some statements brings. -/
def addTables : List Statement → Draft.Members → Option Draft.Members
  | [], members => some members
  | .binding _ _ :: statements, members => addTables statements members
  | .header key :: statements, members => do
      addTables statements (← Draft.change (Draft.openTable (write statements)) key members)
  | .further key :: statements, members => do
      addTables statements (← Draft.change (Draft.openFurther (write statements)) key members)

/-- The table that a text makes up. -/
def ofString? (text : String) : Option Value := do
  let statements ← Statement.ofString? text
  let members ← addTables statements (← write statements [])
  return .table (Draft.finishMembers members)

end Document

end RequestHub.Toml
