import LspHost.Yaml.Value

/-!
The nodes of a YAML document with their values.

A node is given its value when it is made from its parts. A value may be at fault, and the fault of
the whole is the first one of the shallowest level: `Outcome` holds the fault with its depth.
-/

namespace LspHost.Yaml

/-- A value, or a fault with its depth: zero for one of the node itself. -/
abbrev Outcome := Except (Nat × YamlFault) Datum

/-- A node. A mapping keeps its pairs as they are written, and as they are once merge keys have been
replaced by what they merge in, if that can be done. -/
inductive Node where
  | scalar (tag : Tag) (text : List Char) (value : Outcome)
  | sequence (tag : Tag) (items : List Node) (value : Outcome)
  | mapping (tag : Tag) (pairs : List (Node × Node)) (merged : Option (List (Node × Node)))
      (value : Outcome)

namespace Node

def tag : Node → Tag
  | scalar t _ _ => t
  | sequence t _ _ => t
  | mapping t _ _ _ => t

def value : Node → Outcome
  | scalar _ _ v => v
  | sequence _ _ v => v
  | mapping _ _ _ v => v

/-- The items of a sequence. -/
def items? : Node → Option (List Node)
  | sequence _ items _ => some items
  | _ => none

/-- The pairs of a mapping as they are written. -/
def pairs? : Node → Option (List (Node × Node))
  | mapping _ pairs _ _ => some pairs
  | _ => none

/-- The pairs of a mapping with what it merges in. -/
def merged? : Node → Option (List (Node × Node))
  | mapping _ _ merged _ => merged
  | _ => none

/-- A fault of the node itself. -/
def wrong (f : YamlFault) : Outcome := .error (0, f)

/-- A node without a tag that anyone knows. -/
def malformed : Outcome := wrong .malformed

/-- The first of the shallowest faults. -/
def worst : List (Nat × YamlFault) → Option (Nat × YamlFault)
  | [] => none
  | f :: rest =>
    match worst rest with
    | some g => if g.1 < f.1 then some g else some f
    | none => some f

/-- The faults among outcomes. -/
def faults (parts : List Outcome) : List (Nat × YamlFault) :=
  parts.filterMap fun
    | .error f => some f
    | .ok _ => none

/-- The value made from parts that are one level deeper. -/
def gather (parts : List Outcome) (make : List Datum → Datum) : Outcome :=
  match worst (faults parts) with
  | some (depth, f) => .error (depth + 1, f)
  | none => .ok (make (parts.filterMap Except.toOption))

/-- What a node is as a key: collections cannot be keys, whatever they hold. -/
def keyOutcome (n : Node) : Outcome :=
  match n.value with
  | .error (_ + 1, _) => malformed
  | .error f => .error f
  | .ok d => if d.isKey then .ok d else malformed

/-- The entries of a mapping whose keys and values alternate; a later value of a key replaces an
earlier one. -/
def entriesOf : List Datum → List (Datum × Datum) → List (Datum × Datum)
  | k :: v :: rest, out => entriesOf rest (Datum.put out k v)
  | _, out => out

/-- Outcomes of the keys and values of pairs in turn. -/
def alternating (pairs : List (Node × Node)) : List Outcome :=
  pairs.flatMap fun (k, v) => [k.keyOutcome, v.value]

/-- The value under the key that stands in for a scalar. -/
def standIn? (pairs : List (Node × Node)) : Option Node :=
  (pairs.find? fun (k, _) => k.tag = .standIn).map Prod.snd

/-- The text of a scalar, or of what stands in for one. Stand-ins may be nested. -/
def text? : Node → Option (List Char)
  | scalar _ text _ => some text
  | sequence _ _ _ => none
  | mapping _ pairs _ _ => standInText? pairs
where
  standInText? : List (Node × Node) → Option (List Char)
    | [] => none
    | (k, v) :: rest => if k.tag = .standIn then text? v else standInText? rest

/-- The value of a collection under a tag for scalars. -/
def standInValue (t : Tag) (pairs : List (Node × Node)) : Outcome :=
  match standIn? pairs with
  | none => malformed
  | some n =>
    match n.text? with
    | none => malformed
    | some text =>
      if t = .timestamp then wrong (.misused .wrongType)
      else
        match scalarOf t text with
        | .ok d => .ok d
        | .error f => wrong f

/-- The one pair of a mapping that is a pair of a list of pairs, as key and value. -/
def pairParts (n : Node) : List Outcome :=
  match n.pairs? with
  | some [(k, v)] => [k.value, v.value]
  | _ => [malformed]

/-- Items that alternate between first and second, as pairs. -/
def tuples : List Datum → List Datum
  | a :: b :: rest => .tuple [a, b] :: tuples rest
  | _ => []

/-- The keys of entries, as the items of a set. -/
def keysOf (parts : List Datum) : Datum := .set ((entriesOf parts []).map Prod.fst)

/-- What a merge key's value contributes: the pairs of a mapping, or those of a list of mappings, the
last one's first. -/
def contributed? (n : Node) : Option (List (Node × Node)) :=
  match n with
  | mapping _ _ merged _ => merged
  | sequence _ items _ => (items.mapM merged?).map fun ms => ms.reverse.flatten
  | scalar _ _ _ => none

/-- A key that stands in for a scalar is a plain text where pairs are entries. -/
def asEntryKey (n : Node) : Node :=
  match n with
  | scalar .standIn text _ => scalar .str text (.ok (.str (String.ofList text)))
  | n => n

/-- Pairs with what their merge keys contribute, which comes first. -/
def merge? (pairs : List (Node × Node)) : Option (List (Node × Node)) := do
  let ms ← (pairs.filter fun (k, _) => k.tag = .merge).mapM fun (_, v) => contributed? v
  let own := (pairs.filter fun (k, _) => k.tag ≠ .merge).map fun (k, v) => (k.asEntryKey, v)
  some (ms.flatten ++ own)

/-- A scalar. -/
def ofScalar (t : Tag) (text : List Char) : Node :=
  let value : Outcome := match t with
    | .seq | .map | .pairs | .set => .error (1, .malformed)
    | t =>
      match scalarOf t text with
      | .ok d => .ok d
      | .error f => wrong f
  scalar t text value

/-- A sequence. -/
def ofItems (t : Tag) (items : List Node) : Node :=
  let value : Outcome := match t with
    | .seq => gather (items.map Node.value) .seq
    | .pairs => gather (items.flatMap pairParts) fun parts => .seq (tuples parts)
    | .map | .set => .error (1, .malformed)
    | _ => malformed
  sequence t items value

/-- A mapping. -/
def ofPairs (t : Tag) (pairs : List (Node × Node)) : Node :=
  let merged := merge? pairs
  let build (make : List Datum → Datum) : Outcome :=
    match merged with
    | some entries => gather (alternating entries) make
    | none => .error (1, .malformed)
  let value : Outcome := match t with
    | .map => build fun parts => .map (entriesOf parts [])
    | .set => build keysOf
    | .seq | .pairs => .error (1, .malformed)
    | .merge | .standIn | .unknown => malformed
    | t => standInValue t pairs
  mapping t pairs merged value

/-- Where a collection holds itself: it is shown by dots between its brackets. -/
def knot (isMapping : Bool) : Node :=
  if isMapping then mapping .map [] (some []) (.ok (.knot true))
  else sequence .seq [] (.ok (.knot false))

end Node

end LspHost.Yaml
