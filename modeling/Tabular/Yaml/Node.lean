import Tabular.Yaml.Token

/-! The tree of a document, which may break off. Where the tokens end too early or do not fit, the tree
ends, and all that was read up to there is still in it, so that a reader who goes through the tree
from left to right meets the first problem first. -/
namespace Tabular.Yaml

inductive Node where
  | scalar (text : String) (style : Style) (tag : Option Tag)
  | alias (anchor : Nat)
  | sequence (items : List Node) (tag : Option Tag) (closed : Bool)
  | mapping (entries : List (Node × Node)) (tag : Option Tag) (closed : Bool)
  | broken

def Node.empty : Node := .scalar "" .plain none

abbrev Anchors := List (Nat × Node)

def Anchors.find? (a : Anchors) (n : Nat) : Option Node := a.reverse.lookup n

structure Rest where
  tokens : List Token
  names : List (List Char × Nat) := []
  deriving Repr

def Rest.anchor (r : Rest) (name : List Char) : Nat × Rest :=
  let n := r.names.length
  (n, { r with names := (name, n) :: r.names.filter (·.1 ≠ name) })

def Rest.drop (r : Rest) (n : Nat) : Rest := { r with tokens := r.tokens.drop n }

structure Taken (α : Type) where
  value : α
  anchors : Anchors
  rest : Option Rest

namespace Taken

variable {α β : Type}

def done (value : α) (rest : Rest) : Taken α := ⟨value, [], some rest⟩

def brokenOff (value : α) : Taken α := ⟨value, [], none⟩

def map (f : α → β) (t : Taken α) : Taken β := ⟨f t.value, t.anchors, t.rest⟩

def andThen {γ : Type} (t : Taken α) (missing : β) (join : α → β → γ) (next : Rest → Taken β) :
    Taken γ :=
  match t.rest with
  | none => ⟨join t.value missing, t.anchors, none⟩
  | some r =>
    let u := next r
    ⟨join t.value u.value, t.anchors ++ u.anchors, u.rest⟩

end Taken

abbrev Items := List Node × Bool

abbrev Entries := List (Node × Node) × Bool

def putFirst {α : Type} (x : α) (l : List α × Bool) : List α × Bool := (x :: l.1, l.2)

abbrev Handles := List (List Char × Tag)

def standardHandles : Handles := [(['!'], Tag.ofText "!"), (['!', '!'], Tag.core "")]

def expand? (handles : Handles) (t : WrittenTag) : Option Tag :=
  if t.handle.isEmpty then some t.suffix
  else (handles.lookup t.handle).map (· ++ t.suffix)

structure Properties where
  anchor : Option (List Char) := none
  tag : Option WrittenTag := none
  deriving Repr

def takeProperties : List Token → Properties × List Token
  | .anchor a :: .tag t :: rest => (⟨some a, some t⟩, rest)
  | .tag t :: .anchor a :: rest => (⟨some a, some t⟩, rest)
  | .anchor a :: rest => (⟨some a, none⟩, rest)
  | .tag t :: rest => (⟨none, some t⟩, rest)
  | rest => ({}, rest)

def scalarTag (t : Option Tag) : Option Tag := t.filter (· ≠ Tag.ofText "!")

def carrying (anchor : Option Nat) (t : Taken Node) : Taken Node :=
  match anchor with
  | none => t
  | some n => { t with anchors := (n, t.value) :: t.anchors }

def isLeftEmpty? (r : Rest) (ends : List Token) : Option Bool := r.tokens.head?.map ends.contains

mutual

def takeNode (handles : Handles) (block indentless : Bool) : Nat → Rest → Taken Node
  | 0, _ => .brokenOff .broken
  | fuel + 1, r =>
    match r.tokens with
    | .alias name :: _ =>
      match r.names.lookup name with
      | some n => .done (.alias n) (r.drop 1)
      | none => .brokenOff .broken
    | _ =>
      let (p, tokens) := takeProperties r.tokens
      match p.tag.mapM (expand? handles) with
      | none => .brokenOff .broken
      | some tag =>
        let (anchor, r) := match p.anchor with
          | none => (none, { r with tokens := tokens })
          | some name =>
            let (n, r) := r.anchor name
            (some n, { r with tokens := tokens })
        let sequence (t : Taken Items) := carrying anchor (t.map fun l => .sequence l.1 tag l.2)
        let mapping (t : Taken Entries) := carrying anchor (t.map fun l => .mapping l.1 tag l.2)
        match tokens with
        | [] => .brokenOff .broken
        | .scalar text style :: _ =>
          carrying anchor (.done (.scalar (String.ofList text) style (scalarTag tag)) (r.drop 1))
        | .flowSequence :: _ => sequence (takeFlowItems handles true fuel (r.drop 1))
        | .flowMapping :: _ => mapping (takeFlowEntries handles true fuel (r.drop 1))
        | t :: _ =>
          if indentless && t = .item then sequence (takeIndentlessItems handles fuel r)
          else if block && t = .blockSequence then sequence (takeItems handles fuel (r.drop 1))
          else if block && t = .blockMapping then mapping (takeEntries handles fuel (r.drop 1))
          else if p.anchor.isSome || p.tag.isSome then
            carrying anchor (.done (.scalar "" .plain tag) r)
          else .brokenOff .broken

def takeOrEmpty (handles : Handles) (block indentless : Bool) (ends : List Token) :
    Nat → Rest → Taken Node
  | 0, _ => .brokenOff .broken
  | fuel + 1, r =>
    match isLeftEmpty? r ends with
    | none => .brokenOff .broken
    | some true => .done .empty r
    | some false => takeNode handles block indentless fuel r

def takeValue (handles : Handles) (block : Bool) (ends : List Token) : Nat → Rest → Taken Node
  | 0, _ => .brokenOff .broken
  | fuel + 1, r =>
    match r.tokens with
    | [] => .brokenOff .broken
    | .value :: _ => takeOrEmpty handles block block ends fuel (r.drop 1)
    | _ => .done .empty r

def takeItems (handles : Handles) : Nat → Rest → Taken Items
  | 0, _ => .brokenOff ([], false)
  | fuel + 1, r =>
    match r.tokens with
    | .item :: _ =>
      (takeOrEmpty handles true false [.item, .blockEnd] fuel (r.drop 1)).andThen
        ([], false) putFirst (takeItems handles fuel)
    | .blockEnd :: _ => .done ([], true) (r.drop 1)
    | _ => .brokenOff ([], false)

def takeIndentlessItems (handles : Handles) : Nat → Rest → Taken Items
  | 0, _ => .brokenOff ([], false)
  | fuel + 1, r =>
    match r.tokens with
    | .item :: _ =>
      (takeOrEmpty handles true false [.item, .key, .value, .blockEnd] fuel (r.drop 1)).andThen
        ([], false) putFirst (takeIndentlessItems handles fuel)
    | [] => .brokenOff ([], false)
    | _ => .done ([], true) r

def takeEntries (handles : Handles) : Nat → Rest → Taken Entries
  | 0, _ => .brokenOff ([], false)
  | fuel + 1, r =>
    match r.tokens with
    | .key :: _ =>
      let ends := [.key, .value, .blockEnd]
      let entry := (takeOrEmpty handles true true ends fuel (r.drop 1)).andThen
        .broken Prod.mk (takeValue handles true ends fuel)
      entry.andThen ([], false) putFirst (takeEntries handles fuel)
    | .blockEnd :: _ => .done ([], true) (r.drop 1)
    | _ => .brokenOff ([], false)

def takeFlowItems (handles : Handles) (first : Bool) : Nat → Rest → Taken Items
  | 0, _ => .brokenOff ([], false)
  | fuel + 1, r =>
    match r.tokens with
    | .flowSequenceEnd :: _ => .done ([], true) (r.drop 1)
    | t :: _ =>
      if !first && t ≠ .separator then .brokenOff ([], false)
      else
        let r := if first then r else r.drop 1
        match r.tokens with
        | .flowSequenceEnd :: _ => .done ([], true) (r.drop 1)
        | .key :: _ =>
          ((takePair handles fuel (r.drop 1)).map fun l => Node.mapping l.1 none l.2).andThen
            ([], false) putFirst (takeFlowItems handles false fuel)
        | _ =>
          (takeNode handles false false fuel r).andThen
            ([], false) putFirst (takeFlowItems handles false fuel)
    | [] => .brokenOff ([], false)

def takePair (handles : Handles) : Nat → Rest → Taken Entries
  | 0, _ => .brokenOff ([], false)
  | fuel + 1, r =>
    let close (k : Node) (t : Taken Node) : Taken Entries :=
      t.andThen ([(k, t.value)], false) (fun _ l => l) fun r =>
        if r.tokens.isEmpty then .brokenOff ([(k, t.value)], false) else .done ([(k, t.value)], true) r
    let ends := [.separator, .flowSequenceEnd]
    match isLeftEmpty? r (.value :: ends) with
    | none => .brokenOff ([], false)
    | some true => close .empty (takeValue handles false ends fuel (r.drop 1))
    | some false =>
      let k := takeNode handles false false fuel r
      k.andThen ([(k.value, .broken)], false) (fun _ l => l) fun r =>
        close k.value (takeValue handles false ends fuel r)

def takeFlowEntries (handles : Handles) (first : Bool) : Nat → Rest → Taken Entries
  | 0, _ => .brokenOff ([], false)
  | fuel + 1, r =>
    match r.tokens with
    | .flowMappingEnd :: _ => .done ([], true) (r.drop 1)
    | t :: _ =>
      if !first && t ≠ .separator then .brokenOff ([], false)
      else
        let r := if first then r else r.drop 1
        let ends := [.separator, .flowMappingEnd]
        match r.tokens with
        | .flowMappingEnd :: _ => .done ([], true) (r.drop 1)
        | .key :: _ =>
          let entry := (takeOrEmpty handles false false (.value :: ends) fuel (r.drop 1)).andThen
            .broken Prod.mk (takeValue handles false ends fuel)
          entry.andThen ([], false) putFirst (takeFlowEntries handles false fuel)
        | _ =>
          let entry := (takeNode handles false false fuel r).andThen .broken Prod.mk fun r =>
            if r.tokens.isEmpty then .brokenOff .broken else .done .empty r
          entry.andThen ([], false) putFirst (takeFlowEntries handles false fuel)
    | [] => .brokenOff ([], false)

end

def takeDirectives? : Bool → Handles → List Token → Option (Handles × List Token)
  | seen, handles, .version major minor :: rest =>
    if seen || major ≠ 1 || (minor ≠ 1 && minor ≠ 2) then none
    else takeDirectives? true handles rest
  | seen, handles, .tagHandle handle start :: rest =>
    if (handles.lookup handle).isSome then none
    else takeDirectives? seen ((handle, start) :: handles) rest
  | _, handles, rest => some (handles, rest)

def startsDocument (t : Token) : Bool :=
  match t with
  | .version .. | .tagHandle .. | .documentStart => true
  | _ => false

structure Document where
  root : Option Node
  anchors : Anchors
  alone : Bool

def endsAfter (r : Rest) : Bool :=
  let rest := r.tokens.dropWhile (· = .documentEnd)
  rest.head? = some .streamEnd

def takeRoot (handles : Handles) (t : List Token) : Document :=
  let taken := takeNode handles true false (4 * t.length + 4) { tokens := t }
  ⟨some taken.value, taken.anchors, taken.rest.any endsAfter⟩

def Document.ofTokens (t : List Token) : Document :=
  let nothing : Document := ⟨some .broken, [], false⟩
  match t with
  | [] => nothing
  | .streamEnd :: _ => ⟨none, [], true⟩
  | first :: _ =>
    if !startsDocument first then takeRoot standardHandles t
    else match takeDirectives? false [] t with
      | some (handles, .documentStart :: rest) =>
        match rest with
        | [] => nothing
        | next :: _ =>
          if startsDocument next || next = .documentEnd || next = .streamEnd then
            ⟨some .empty, [], endsAfter { tokens := rest }⟩
          else takeRoot (handles ++ standardHandles) rest
      | _ => nothing

mutual

def Node.size : Node → Nat
  | .sequence items _ closed => 1 + sizeOfItems items + (if closed then 1 else 0)
  | .mapping entries _ closed => 1 + sizeOfEntries entries + (if closed then 1 else 0)
  | .broken => 0
  | _ => 1

def sizeOfItems : List Node → Nat
  | [] => 0
  | n :: rest => n.size + sizeOfItems rest

def sizeOfEntries : List (Node × Node) → Nat
  | [] => 0
  | (k, v) :: rest => k.size + v.size + sizeOfEntries rest

end

mutual

def Node.isComplete : Node → Bool
  | .sequence items _ closed => closed && itemsComplete items
  | .mapping entries _ closed => closed && entriesComplete entries
  | .broken => false
  | _ => true

def itemsComplete : List Node → Bool
  | [] => true
  | n :: rest => n.isComplete && itemsComplete rest

def entriesComplete : List (Node × Node) → Bool
  | [] => true
  | (k, v) :: rest => k.isComplete && v.isComplete && entriesComplete rest

end

end Tabular.Yaml
