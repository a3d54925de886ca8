import ContractAudit.Toml.Scalar

/-!
# Settings documents

A document is a list of statements: a key with its value, the head of a table,
or the head of one more table of an array.  Tables can be opened in any order,
but no value is overwritten, a table with a head is opened once, and what is
written in brackets or braces cannot be extended later.

Main definitions:

- {lit}`modifyAt`: a change of the table under a dotted key.
- {lit}`Draft`: the tables read so far and which keys are closed.
- {lit}`parse`: the table of a whole document.
-/

namespace ContractAudit
namespace Toml

open Config (Value Table)

/-- Replaces the value of a key that is present. -/
def replaceEntry (k : String) (v : Value) (t : Table) : Table :=
  t.map fun e => if e.1 == k then (k, v) else e

/-- Changes the table under a key, where missing tables are made.  With `lists` a
list on the way stands for its last item.  Fails where something else is met. -/
def modifyAt (lists : Bool) : Key → (Table → Option Table) → Table → Option Table
  | [], f, t => f t
  | k :: rest, f, t =>
    match t.lookup k with
    | none => (modifyAt lists rest f []).map fun inner => t ++ [(k, .table inner)]
    | some (.table inner) =>
      (modifyAt lists rest f inner).map fun x => replaceEntry k (.table x) t
    | some (.list items) =>
      match lists, items.getLast? with
      | true, some (.table inner) =>
        (modifyAt lists rest f inner).map fun x =>
          replaceEntry k (.list (items.dropLast ++ [.table x])) t
      | _, _ => none
    | some _ => none

/-- Adds an entry whose key is new. -/
def addEntry (k : String) (v : Value) (t : Table) : Option Table :=
  if (t.lookup k).isSome then none else some (t ++ [(k, v)])

/-- Adds one more empty table to the list of a key. -/
def addListTable (k : String) (t : Table) : Option Table :=
  match t.lookup k with
  | none => some (t ++ [(k, .list [.table []])])
  | some (.list items) => some (replaceEntry k (.list (items ++ [.table []])) t)
  | some _ => none

/-- Whether a value is written in brackets or braces, so that it cannot be extended. -/
def isClosedValue : Value → Bool
  | .list _ => true
  | .table _ => true
  | _ => false

/-- Whether a key is one of `closed` or lies below one. -/
def isBelow (closed : List Key) (k : Key) : Bool :=
  closed.any fun c => !c.isEmpty && c.isPrefixOf k

/-- The parts of a key but the last, and the last. -/
def splitLast (k : Key) : Key × String :=
  (k.dropLast, k.getLast?.getD "")

/-- The keys on the way to a dotted key, shortest first. -/
def properStarts : Key → List Key
  | a :: b :: rest => [a] :: (properStarts (b :: rest)).map (a :: ·)
  | _ => []

mutual

/-- Reads a value, in at most `fuel` nested steps. -/
def value : Nat → List Char → Except Refusal (Value × List Char)
  | 0, cs => fail .value cs
  | fuel + 1, cs =>
    match text? cs with
    | some r => r.map fun p => (.text (String.ofList p.1), p.2)
    | none => match cs with
      | '[' :: rest => do
        let rest ← skipAll rest
        match rest with
        | ']' :: rest => .ok (.list [], rest)
        | _ =>
          let (items, rest) ← listItems fuel rest
          .ok (.list items, rest)
      | '\x7b' :: rest =>
        match skipSpaces rest with
        | '\x7d' :: rest => .ok (.table [], rest)
        | rest => do
          let (t, rest) ← tableEntries fuel [] [] rest
          .ok (.table t, rest)
      | _ => scalar cs

/-- Reads the items of a list up to its closing bracket. -/
def listItems : Nat → List Char → Except Refusal (List Value × List Char)
  | 0, cs => fail .unclosedArray cs
  | fuel + 1, cs => do
    let (v, rest) ← value fuel cs
    let rest ← skipAll rest
    match rest with
    | ']' :: rest => .ok ([v], rest)
    | ',' :: rest =>
      let rest ← skipAll rest
      match rest with
      | ']' :: rest => .ok ([v], rest)
      | _ =>
        let (items, rest) ← listItems fuel rest
        .ok (v :: items, rest)
    | _ => fail .unclosedArray rest

/-- Reads the entries of a table in braces up to its closing brace. -/
def tableEntries : Nat → List Key → Table → List Char → Except Refusal (Table × List Char)
  | 0, _, _, cs => fail .unclosedTable cs
  | fuel + 1, closed, t, cs => do
    let (k, rest) ← key cs
    match rest with
    | '=' :: rest =>
      let (v, rest) ← value fuel (skipSpaces rest)
      if isBelow closed k then fail (.immutableSpace k) rest
      else
        let (parent, last) := splitLast k
        match modifyAt false parent some t with
        | none => fail .overwritten rest
        | some made =>
          match modifyAt false parent (addEntry last v) made with
          | none => fail (.duplicate last) rest
          | some t =>
            match skipSpaces rest with
            | '\x7d' :: rest => .ok (t, rest)
            | ',' :: rest =>
              let closed := if isClosedValue v then k :: closed else closed
              tableEntries fuel closed t (skipSpaces rest)
            | rest => fail .unclosedTable rest
    | _ => fail .equalsSign rest

end

/-- Reads a key, the equals sign and a value. -/
def entry (cs : List Char) : Except Refusal ((Key × Value) × List Char) := do
  let (k, rest) ← key cs
  match rest with
  | '=' :: rest =>
    let (v, rest) ← value (2 * rest.length + 2) (skipSpaces rest)
    .ok ((k, v), rest)
  | _ => fail .equalsSign rest

/-- What has been read of a document. -/
structure Draft where
  /-- The table of the document. -/
  data : Table := []
  /-- The key of the table that is open. -/
  header : Key := []
  /-- The keys whose values cannot be extended. -/
  frozen : List Key := []
  /-- The keys that can no longer be opened by a head. -/
  declared : List Key := []
  /-- The keys that become declared at the next head. -/
  pending : List Key := []

namespace Draft

/-- The first key on the way to a dotted key that a head has declared. -/
def declaredOnWay? (d : Draft) (k : Key) : Option Key :=
  ((properStarts k).map (d.header ++ ·)).find? fun p => d.declared.contains p

/-- Adds an entry below the open table. -/
def put (d : Draft) (k : Key) (v : Value) (rest : List Char) : Except Refusal Draft :=
  let (parent, last) := splitLast k
  let whole := d.header ++ parent
  match d.declaredOnWay? k with
  | some seen => fail (.redefined seen) rest
  | none =>
    if isBelow d.frozen whole then fail (.immutableSpace whole) rest
    else match modifyAt true whole (addEntry last v) d.data with
      | none => fail .overwritten rest
      | some data =>
        .ok { d with
          data
          frozen := if isClosedValue v then (d.header ++ k) :: d.frozen else d.frozen
          pending := (properStarts k).map (d.header ++ ·) ++ d.pending }

/-- The keys on the way of dotted keys count as declared from the next head on. -/
def settle (d : Draft) : Draft :=
  { d with declared := d.pending ++ d.declared, pending := [] }

/-- Opens the table of a head. -/
def openTable (d : Draft) (k : Key) (rest : List Char) : Except Refusal Draft :=
  if d.declared.contains k || isBelow d.frozen k then fail (.declaredTwice k) rest
  else match modifyAt true k some d.data with
    | none => fail .overwritten rest
    | some data => .ok { d with data, header := k, declared := k :: d.declared }

/-- Opens one more table of an array. -/
def openListTable (d : Draft) (k : Key) (rest : List Char) : Except Refusal Draft :=
  if isBelow d.frozen k then fail (.immutableSpace k) rest
  else
    let (parent, last) := splitLast k
    match modifyAt true parent (addListTable last) d.data with
    | none => fail .overwritten rest
    | some data =>
      .ok { d with
        data
        header := k
        frozen := d.frozen.filter (!k.isPrefixOf ·)
        declared := k :: d.declared.filter (!k.isPrefixOf ·) }

/-- Reads a head or an entry that starts here. -/
def statement (d : Draft) (cs : List Char) : Except Refusal (Draft × List Char) :=
  match cs with
  | '[' :: '[' :: rest => do
    let (k, rest) ← key (skipSpaces rest)
    let d ← d.settle.openListTable k rest
    match rest with
    | ']' :: ']' :: rest => .ok (d, skipSpaces rest)
    | _ => fail .arrayTableEnd rest
  | '[' :: rest => do
    let (k, rest) ← key (skipSpaces rest)
    let d ← d.settle.openTable k rest
    match rest with
    | ']' :: rest => .ok (d, skipSpaces rest)
    | _ => fail .tableEnd rest
  | '#' :: _ => .ok (d, cs)
  | c :: _ =>
    if startsKey c then do
      let ((k, v), rest) ← entry cs
      let d ← d.put k v rest
      .ok (d, skipSpaces rest)
    else fail .statement cs
  | [] => .ok (d, [])

/-- Reads at most `fuel` lines. -/
def lines : Nat → Draft → List Char → Except Refusal Draft
  | 0, d, _ => .ok d
  | fuel + 1, d, cs =>
    match skipSpaces cs with
    | [] => .ok d
    | '\n' :: rest => lines fuel d rest
    | start => do
      let (d, rest) ← d.statement start
      let rest ← skipComment rest
      match rest with
      | [] => .ok d
      | '\n' :: rest => lines fuel d rest
      | _ => fail .lineEnd rest

end Draft

/-- Every carriage return before a line feed is dropped. -/
def joinLineEnds : List Char → List Char
  | '\r' :: '\n' :: rest => '\n' :: joinLineEnds rest
  | c :: rest => c :: joinLineEnds rest
  | [] => []

/-- The table of a document. -/
def parse (source : List Char) : Except Refusal Table :=
  (Draft.lines (source.length + 1) {} (joinLineEnds source)).map Draft.data

/-- The explanation of a refused document. -/
def Refusal.message (source : List Char) : Refusal → String
  | flaw what rest => what.located (joinLineEnds source) rest
  | longInteger count => (Number.ReadError.tooLong count).message

end Toml
end ContractAudit
