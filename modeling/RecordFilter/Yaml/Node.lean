import RecordFilter.Yaml.Token

/-!
# YAML nodes

Tokens make up documents of nodes. Anchors are numbered in the order in which their nodes start, and
an alias holds the number that its name had last; what has that number is for the reader of the
document to say. Versions of YAML differ in some rules, which make up a `Grammar`.
-/

namespace RecordFilter.Yaml

inductive Node where
  | scalar (text : List Char) (plain : Bool) (tag : Option Tag)
  | sequence (items : List Node)
  | mapping (entries : List (Node × Node))
  | anchored (number : Nat) (content : Node)
  | reference (number : Nat)
deriving Repr

namespace Node

instance : Inhabited Node := ⟨scalar [] true none⟩

/-- What stands where a node is left out. -/
def missing : Node := scalar [] true none

mutual

/-- How many events a node consists of: scalars and aliases are one, collections have two ends. -/
def eventCount : Node → Nat
  | scalar _ _ _ => 1
  | reference _ => 1
  | anchored _ n => n.eventCount
  | sequence items => itemsEventCount items + 2
  | mapping entries => entriesEventCount entries + 2

def itemsEventCount : List Node → Nat
  | [] => 0
  | n :: items => n.eventCount + itemsEventCount items

def entriesEventCount : List (Node × Node) → Nat
  | [] => 0
  | (k, v) :: entries => k.eventCount + v.eventCount + entriesEventCount entries

end

def content : Node → Node
  | anchored _ n => n
  | n => n

end Node

abbrev Anchors := List (List Char × Nat)

/-- A reader of tokens, which knows the anchors before it and gives those after it. -/
abbrev Step (α : Type) := Option (α × Anchors × List Token)

/-- The rules for nodes in which versions of YAML differ. -/
structure Grammar where
  /-- what a tag stands for; nothing where its handle is not declared -/
  resolve? : Tag → Option Tag
  /-- whether an anchor takes the place of an earlier one of its name when they are counted -/
  replacesAnchors : Bool
  /-- whether an entry may start with its value -/
  keyless : Bool

structure Properties where
  anchor : Option (List Char)
  tag : Option Tag

namespace Properties

def none : Properties := ⟨.none, .none⟩

def isNone (p : Properties) : Bool := p.anchor.isNone && p.tag.isNone

/-- The anchors once a node with these properties has started. A new one gets as its number how
many there are. -/
def bind (g : Grammar) (p : Properties) (anchors : Anchors) : Anchors :=
  match p.anchor with
  | some name =>
    let kept := if g.replacesAnchors then anchors.filter (·.1 ≠ name) else anchors
    (name, anchors.length) :: kept
  | .none => anchors

def apply (p : Properties) (anchors : Anchors) (content : Node) : Node :=
  if p.anchor.isSome then .anchored anchors.length content else content

end Properties

def properties? (g : Grammar) (t : List Token) : Option (Properties × List Token) :=
  match t with
  | .anchor a :: .tag u :: t => (g.resolve? u).map fun u => (⟨some a, some u⟩, t)
  | .anchor a :: t => some (⟨some a, none⟩, t)
  | .tag u :: .anchor a :: t => (g.resolve? u).map fun u => (⟨some a, some u⟩, t)
  | .tag u :: t => (g.resolve? u).map fun u => (⟨none, some u⟩, t)
  | t => some (Properties.none, t)

theorem properties?_length_le {g : Grammar} {t : List Token} {p : Properties}
    {content : List Token} (h : properties? g t = some (p, content)) :
    content.length ≤ t.length := by
  unfold properties? at h
  split at h
  all_goals
    simp only [Option.map_eq_some_iff, Option.some.injEq, Prod.mk.injEq] at h
    grind

/-- Whether the first token is one of these; a part of an entry is left out before them. -/
def startsWith (t : List Token) (choices : List Token) : Bool := t.head?.any choices.contains

mutual

/-- A node. Blocks are only allowed outside brackets, and in mappings a sequence needs no
indentation of its own. -/
def node? (g : Grammar) (block unindented : Bool) (anchors : Anchors) (t : List Token) :
    Step Node :=
  match t.head? with
  | some (.reference name) => (anchors.lookup name).map fun n => (.reference n, anchors, t.drop 1)
  | _ =>
    match _h : properties? g t with
    | none => none
    | some (p, content) =>
      let inside := p.bind g anchors
      let finish (n : Node) (after : Anchors) (t : List Token) : Step Node :=
        some (p.apply anchors n, after, t)
      match content with
      | .scalar text plain :: rest => finish (.scalar text plain p.tag) inside rest
      | .flowSequenceStart :: rest =>
        match flowItems? g [] inside rest with
        | some (items, after, rest) => finish (.sequence items) after rest
        | none => none
      | .flowMappingStart :: rest =>
        match flowEntries? g [] inside rest with
        | some (entries, after, rest) => finish (.mapping entries) after rest
        | none => none
      | first :: rest =>
        if first = .blockEntry ∧ unindented then
          match blockItems? g true [] inside (first :: rest) with
          | some (items, after, rest) => finish (.sequence items) after rest
          | none => none
        else if first = .blockSequenceStart ∧ block then
          match blockItems? g false [] inside rest with
          | some (items, after, rest) => finish (.sequence items) after rest
          | none => none
        else if first = .blockMappingStart ∧ block then
          match blockEntries? g [] inside rest with
          | some (entries, after, rest) => finish (.mapping entries) after rest
          | none => none
        else if p.isNone then none
        else finish (.scalar [] true p.tag) inside content
      | [] => if p.isNone then none else finish (.scalar [] true p.tag) inside []
termination_by (t.length, 1)
decreasing_by
  all_goals
    have := properties?_length_le _h
    simp only [List.length_cons] at *
  · exact Prod.Lex.left _ _ (by omega)
  · exact Prod.Lex.left _ _ (by omega)
  · rcases Nat.lt_or_eq_of_le this with hlt | heq
    · exact Prod.Lex.left _ _ hlt
    · rw [← heq]; exact Prod.Lex.right _ (by decide)
  · exact Prod.Lex.left _ _ (by omega)
  · exact Prod.Lex.left _ _ (by omega)

def blockItems? (g : Grammar) (unindented : Bool) (acc : List Node)
    (anchors : Anchors) (t : List Token) : Step (List Node) :=
  match t with
  | .blockEntry :: rest =>
    if startsWith rest ([.blockEntry, .blockEnd] ++ if unindented then [.key, .value] else []) then
      blockItems? g unindented (.missing :: acc) anchors rest
    else
      match node? g true false anchors rest with
      | some (n, anchors, rest') =>
        if rest'.length < (Token.blockEntry :: rest).length then
          blockItems? g unindented (n :: acc) anchors rest'
        else none
      | none => none
  | t =>
    if unindented then some (acc.reverse, anchors, t)
    else if startsWith t [.blockEnd] then some (acc.reverse, anchors, t.drop 1)
    else none
termination_by (t.length, 0)
decreasing_by
  all_goals simp only [List.length_cons] at *
  all_goals exact Prod.Lex.left _ _ (by omega)

def blockEntries? (g : Grammar) (acc : List (Node × Node)) (anchors : Anchors)
    (t : List Token) : Step (List (Node × Node)) :=
  match t with
  | .key :: rest =>
    match blockPart? g anchors rest with
    | none => none
    | some (k, anchors, afterKey) =>
      match afterKey with
      | .value :: rest' =>
        if rest'.length < rest.length then
          match blockPart? g anchors rest' with
          | none => none
          | some (v, anchors, rest'') =>
            if rest''.length < (Token.key :: rest).length then
              blockEntries? g ((k, v) :: acc) anchors rest''
            else none
        else none
      | afterKey =>
        if afterKey.length < (Token.key :: rest).length then
          blockEntries? g ((k, .missing) :: acc) anchors afterKey
        else none
  | .value :: rest =>
    if g.keyless then
      match blockPart? g anchors rest with
      | none => none
      | some (v, anchors, rest') =>
        if rest'.length < (Token.value :: rest).length then
          blockEntries? g ((.missing, v) :: acc) anchors rest'
        else none
    else none
  | .blockEnd :: rest => some (acc.reverse, anchors, rest)
  | _ => none
termination_by (t.length, 0)
decreasing_by
  all_goals simp only [List.length_cons] at *
  all_goals exact Prod.Lex.left _ _ (by omega)

/-- The key or value of an entry outside brackets; it may be left out. -/
def blockPart? (g : Grammar) (anchors : Anchors) (t : List Token) : Step Node :=
  if startsWith t [.key, .value, .blockEnd] then some (.missing, anchors, t)
  else node? g true true anchors t
termination_by (t.length, 2)
decreasing_by exact Prod.Lex.right _ (by decide)

def flowPart? (g : Grammar) (anchors : Anchors) (t : List Token) : Step Node :=
  if startsWith t [.value, .flowEntry, .flowSequenceEnd, .flowMappingEnd] then
    some (.missing, anchors, t)
  else node? g false false anchors t
termination_by (t.length, 2)
decreasing_by exact Prod.Lex.right _ (by decide)

def flowPair? (g : Grammar) (anchors : Anchors) (t : List Token) :
    Step (Node × Node) :=
  match t with
  | .key :: rest =>
    match flowPart? g anchors rest with
    | none => none
    | some (k, anchors, afterKey) =>
      match afterKey with
      | .value :: rest' =>
        if rest'.length < rest.length then
          match flowPart? g anchors rest' with
          | none => none
          | some (v, anchors, rest'') => some ((k, v), anchors, rest'')
        else none
      | afterKey => some ((k, .missing), anchors, afterKey)
  | .value :: rest =>
    if g.keyless then
      match flowPart? g anchors rest with
      | none => none
      | some (v, anchors, rest) => some ((.missing, v), anchors, rest)
    else none
  | t =>
    match node? g false false anchors t with
    | none => none
    | some (k, anchors, rest) => some ((k, .missing), anchors, rest)
termination_by (t.length, 3)
decreasing_by
  · simp only [List.length_cons]; exact Prod.Lex.left _ _ (by omega)
  · simp only [List.length_cons]; exact Prod.Lex.left _ _ (by omega)
  · simp only [List.length_cons]; exact Prod.Lex.left _ _ (by omega)
  · exact Prod.Lex.right _ (by decide)

/-- The items of a sequence in brackets up to its end. An entry with a mark of its own is a mapping
with this one entry. -/
def flowItems? (g : Grammar) (acc : List Node) (anchors : Anchors)
    (t : List Token) : Step (List Node) :=
  if startsWith t [.flowSequenceEnd] then some (acc.reverse, anchors, t.drop 1)
  else
    let item : Step Node :=
      if startsWith t [.key] then
        (flowPair? g anchors t).map fun (e, rest) => (.mapping [e], rest)
      else node? g false false anchors t
    match item with
    | some (n, anchors, .flowEntry :: rest) =>
      if rest.length < t.length then flowItems? g (n :: acc) anchors rest else none
    | some (n, anchors, .flowSequenceEnd :: rest) => some ((n :: acc).reverse, anchors, rest)
    | _ => none
termination_by (t.length, 4)
decreasing_by
  · exact Prod.Lex.right _ (by decide)
  · exact Prod.Lex.right _ (by decide)
  · exact Prod.Lex.left _ _ (by omega)

def flowEntries? (g : Grammar) (acc : List (Node × Node)) (anchors : Anchors)
    (t : List Token) : Step (List (Node × Node)) :=
  if startsWith t [.flowMappingEnd] then some (acc.reverse, anchors, t.drop 1)
  else
    match flowPair? g anchors t with
    | some (e, anchors, .flowEntry :: rest) =>
      if rest.length < t.length then flowEntries? g (e :: acc) anchors rest else none
    | some (e, anchors, .flowMappingEnd :: rest) => some ((e :: acc).reverse, anchors, rest)
    | _ => none
termination_by (t.length, 4)
decreasing_by
  · exact Prod.Lex.right _ (by decide)
  · exact Prod.Lex.left _ _ (by omega)

end

/-! ## Documents -/

def skipEnds : List Token → List Token
  | .documentEnd :: t => skipEnds t
  | t => t

def content? (g : Grammar) (t : List Token) : Option (Node × List Token) :=
  match t with
  | [] => some (.missing, [])
  | .documentEnd :: _ => some (.missing, t)
  | .documentStart :: _ => some (.missing, t)
  | .version _ _ :: _ => some (.missing, t)
  | .tagDirective _ _ :: _ => some (.missing, t)
  | t => (node? g true false [] t).map fun (n, _, t) => (n, t)

def bareContent? (g : Grammar) (t : List Token) : Option (Node × List Token) :=
  (node? g true false [] t).map fun (n, _, t) => (n, t)

end RecordFilter.Yaml
