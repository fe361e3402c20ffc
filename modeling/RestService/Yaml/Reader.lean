import RestService.Yaml.Node
import RestService.Yaml.Resolve

set_option autoImplicit false

namespace RestService.Yaml

/-- The numbers of the anchors whose names are in use. -/
abbrev Anchors := List (String × Nat)

/-- The anchors with a new one for a name, and its number. -/
def Anchors.add (anchors : Anchors) (name : String) : Anchors × Nat :=
  ((name, anchors.length) :: anchors.filter (·.1 != name), anchors.length)

/-- The anchors with that of a node, if it has one, and its number. -/
def Anchors.addOptional (anchors : Anchors) : Option String → Anchors × Option Nat
  | none => (anchors, none)
  | some name => ((anchors.add name).1, some (anchors.add name).2)

/-- The nodes of anchors by their numbers, in the order of the document. -/
abbrev Targets := List (Nat × Node Nat)

/-- The target that a node is, if it has an anchor. -/
def targetOf (number? : Option Nat) (node : Node Nat) : Targets :=
  match number? with
  | some number => [(number, node)]
  | none => []

mutual

/-- A node with its aliases by number, the anchors in use after it, and the targets in it. -/
def numbered (anchors : Anchors) : Node String → Except Problem (Node Nat × Anchors × Targets)
  | .alias name =>
    match anchors.lookup name with
    | some number => .ok (.alias number, anchors, [])
    | none => .error (.unknownAnchor name)
  | .scalar properties text plain =>
    let (anchors, number?) := anchors.addOptional properties.anchor?
    let node := .scalar properties text plain
    .ok (node, anchors, targetOf number? node)
  | .sequence properties items => do
    let (anchors, number?) := anchors.addOptional properties.anchor?
    let (items, anchors, targets) ← numberedItems anchors items
    let node := .sequence properties items
    return (node, anchors, targetOf number? node ++ targets)
  | .mapping properties entries => do
    let (anchors, number?) := anchors.addOptional properties.anchor?
    let (entries, anchors, targets) ← numberedEntries anchors entries
    let node := .mapping properties entries
    return (node, anchors, targetOf number? node ++ targets)

def numberedItems (anchors : Anchors) :
    List (Node String) → Except Problem (List (Node Nat) × Anchors × Targets)
  | [] => .ok ([], anchors, [])
  | item :: items => do
    let (item, anchors, inner) ← numbered anchors item
    let (items, anchors, targets) ← numberedItems anchors items
    return (item :: items, anchors, inner ++ targets)

def numberedEntries (anchors : Anchors) :
    List (Node String × Node String) →
      Except Problem (List (Node Nat × Node Nat) × Anchors × Targets)
  | [] => .ok ([], anchors, [])
  | (key, value) :: entries => do
    let (key, anchors, first) ← numbered anchors key
    let (value, anchors, second) ← numbered anchors value
    let (entries, anchors, targets) ← numberedEntries anchors entries
    return ((key, value) :: entries, anchors, first ++ second ++ targets)

end

mutual

/-- The number of events that a node gives rise to: one for a scalar or an alias, two for a
collection beside those of its parts. -/
def eventCount : Node Nat → Nat
  | .alias _ => 1
  | .scalar _ _ _ => 1
  | .sequence _ items => 2 + itemEvents items
  | .mapping _ entries => 2 + entryEvents entries

def itemEvents : List (Node Nat) → Nat
  | [] => 0
  | item :: items => eventCount item + itemEvents items

def entryEvents : List (Node Nat × Node Nat) → Nat
  | [] => 0
  | (key, value) :: entries => eventCount key + eventCount value + entryEvents entries

end

/-- The text of a tag, if it is one in UTF-8. -/
def tagText? (tag : List UInt8) : Option String := String.fromUTF8? ⟨tag.toArray⟩

/-- The tag of its own that a node has: one that starts with an exclamation mark. -/
def ownTag? (properties : Properties) : Option String := do
  let tag ← properties.tag?
  match tag with
  | 0x21 :: rest => tagText? (if rest.isEmpty then tag else rest)
  | _ => none

/-- The tree of a scalar that has no tag of its own. -/
def scalarTree (properties : Properties) (text : String) (plain : Bool) : Except Problem YamlTree :=
  let untagged : Except Problem YamlTree :=
    if plain then (plainValue text).toTree text else .ok (.text text)
  match properties.tag? with
  | none => untagged
  | some tag =>
    match (tagText? tag).bind ScalarTag.of? with
    | some kind => kind.tree text
    | none => if tag.head? = some 0x21 then untagged else .ok (.text text)

/-- What reading aliases needs: the targets, last one first, and how many aliases may be followed.
-/
structure AliasTable where
  targets : List (Nat × Node Nat)
  limit : Nat

/-- A step that counts the aliases followed. -/
abbrev Following (α : Type) := StateT Nat (Except Problem) α

/-- The node that stands for itself or, as an alias, for its target. -/
def AliasTable.follow (table : AliasTable) : Node Nat → Following (Node Nat)
  | .alias number => do
    let followed := (← get) + 1
    if table.limit < followed then throw .tooManyAliases
    set followed
    match table.targets.lookup number with
    | some node => return node
    | none => throw (.unknownAnchor (toString number))
  | node => return node

/-- The tree with a tag of its own, if there is one. -/
def withTag (tag? : Option String) (tree : YamlTree) : YamlTree :=
  match tag? with
  | some tag => .tagged tag tree
  | none => tree

def addEntry (entries : List (YamlTree × YamlTree)) (key : YamlTree) : Except Problem Unit :=
  if entries.any fun entry => YamlTree.same entry.1 key then .error .duplicateKey else .ok ()

/-- The tree of a node that is no alias, with at most `depth` collections inside one another. -/
def treeOf (table : AliasTable) : Nat → Node Nat → Following YamlTree
  | _, .scalar properties text plain =>
    match ownTag? properties with
    | some tag => do return .tagged tag (← scalarTree { properties with tag? := none } text plain)
    | none => scalarTree properties text plain
  | depth + 1, .sequence properties items => do
    let trees ← items.mapM fun item => do treeOf table depth (← table.follow item)
    return withTag (ownTag? properties) (.sequence trees)
  | depth + 1, .mapping properties entries => do
    let trees ← entries.foldlM (fun trees (key, value) => do
      let key ← treeOf table depth (← table.follow key)
      addEntry trees key
      let value ← treeOf table depth (← table.follow value)
      return trees ++ [(key, value)]) []
    return withTag (ownTag? properties) (.mapping trees)
  | _, .alias number => throw (.unknownAnchor (toString number))
  | 0, _ => throw .tooDeep

/-- How many collections may lie inside one another. -/
def maxDepth : Nat := 128

def treeOfDocument (node : Node String) : Except Problem YamlTree := do
  let (node, _, targets) ← numbered [] node
  let table : AliasTable := ⟨targets.reverse, 100 * eventCount node⟩
  let (tree, _) ← (table.follow node >>= treeOf table maxDepth).run 0
  return tree

end RestService.Yaml

namespace RestService.YamlTree

def read (s : String) : Except Yaml.Problem YamlTree := do
  match ← Yaml.readText s with
  | none => return .null
  | some node => Yaml.treeOfDocument node

end RestService.YamlTree
