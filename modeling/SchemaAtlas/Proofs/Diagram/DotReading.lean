import SchemaAtlas.Proofs.Diagram.DotQuotation
import SchemaAtlas.Proofs.Diagram.NodeNames
/-!
DOT text as its readers see it: the nodes that it declares and the edges between nodes. The reader takes the statements
of DOT one after the other and knows nothing of the writer; a graph whose names can be quoted is read back from its
text.
-/
namespace SchemaAtlas

namespace Dot

/-- The nodes that are declared, and the ends of the edges. -/
structure Picture where
  nodes : List Text
  edges : List (Place × Place)
deriving DecidableEq, Repr

namespace Picture

def empty : Picture := ⟨[], []⟩

def join (first second : Picture) : Picture := ⟨first.nodes ++ second.nodes, first.edges ++ second.edges⟩

theorem join_assoc (first second third : Picture) :
    (first.join second).join third = first.join (second.join third) := by
  simp [join]

theorem map_empty_join (seen : Option Picture) : seen.map empty.join = seen := by
  cases seen <;> rfl

end Picture

/-- Gives the names behind colons to the place in front of them, from the last word on. -/
def gathered : List Token → List Token
  | [] => []
  | .mark ':' :: rest =>
    match gathered rest with
    | .name place :: others => .ports (place.node :: place.ports) :: others
    | others => .mark ':' :: others
  | .name place :: rest =>
    match gathered rest with
    | .ports names :: others => .name ⟨place.node, names⟩ :: others
    | others => .name place :: others
  | token :: rest => token :: gathered rest

def Token.isValue : Token → Bool
  | .name place => place.ports == []
  | .markup _ => true
  | _ => false

/-- Statements up to the brace that closes the graph, at a depth of clusters and perhaps inside of brackets. -/
def readBody : Bool → Nat → List Token → Option Picture
  | true, depth, .mark ']' :: rest => readBody false depth rest
  | true, depth, .name _ :: .mark '=' :: value :: rest => if value.isValue then readBody true depth rest else none
  | false, depth, .mark '\x7d' :: rest =>
    match depth with
    | 0 => if rest = [] then some .empty else none
    | outer + 1 => readBody false outer rest
  | false, depth, .keyword .subgraph :: title :: .mark '\x7b' :: rest =>
    if title.isValue then readBody false (depth + 1) rest else none
  | false, depth, .keyword .node :: .mark '[' :: rest => readBody true depth rest
  | false, depth, .keyword .edge :: .mark '[' :: rest => readBody true depth rest
  | false, depth, .name place :: .mark '[' :: rest => (readBody true depth rest).map (.join ⟨[place.node], []⟩)
  | false, depth, .name tail :: .arrow :: .name head :: .mark '[' :: rest =>
    (readBody true depth rest).map (.join ⟨[], [(tail, head)]⟩)
  | false, depth, .name _ :: .mark '=' :: value :: rest => if value.isValue then readBody false depth rest else none
  | _, _, _ => none

/-- A directed graph, with or without a name. -/
def readGraph : List Token → Option Picture
  | .keyword .digraph :: .mark '\x7b' :: rest => readBody false 0 rest
  | .keyword .digraph :: title :: .mark '\x7b' :: rest => if title.isValue then readBody false 0 rest else none
  | _ => none

def read? (text : Text) : Option Picture := (words? text).bind fun tokens => readGraph (gathered tokens)

/-- A text that can be quoted and is no markup, so it can stand for a node. -/
structure Nameable (text : Text) : Prop extends Quotable text where
  plain : (markup.match? text).isSome = false

/-- A node that an edge can end at: without a colon there is no port. -/
structure Joinable (text : Text) : Prop extends Nameable text where
  whole : ':' ∉ text

def SoundSetting (setting : Setting) : Prop := Nameable setting.1.toList ∧ Quotable setting.2.toList

def Statement.Sound : Statement → Prop
  | settings values => ∀ value ∈ values, SoundSetting value
  | defaults target values => target ∈ ["node", "edge"] ∧ ∀ value ∈ values, SoundSetting value
  | node id values => Nameable id.toList ∧ ∀ value ∈ values, SoundSetting value
  | edge tail head values => Joinable tail.toList ∧ Joinable head.toList ∧ ∀ value ∈ values, SoundSetting value

def Item.Sound : Item → Prop
  | single statement => statement.Sound
  | cluster name statements => Quotable name.toList ∧ ∀ statement ∈ statements, statement.Sound

structure Graph.Sound (graph : Graph) : Prop where
  name : Quotable graph.name.toList
  items : ∀ item ∈ graph.items, item.Sound

def settingTokens (setting : Setting) : List Token :=
  [tokenOf setting.1.toList, .mark '=', tokenOf setting.2.toList]

def bracketTokens (values : List Setting) : List Token := .mark '[' :: (values.flatMap settingTokens ++ [.mark ']'])

def Statement.tokens : Statement → List Token
  | settings values => values.flatMap settingTokens
  | defaults target values => (if target = "node" then .keyword .node else .keyword .edge) :: bracketTokens values
  | node id values => tokenOf id.toList :: bracketTokens values
  | edge tail head values => tokenOf tail.toList :: .arrow :: tokenOf head.toList :: bracketTokens values

/-- The words of each line. -/
def Item.lineTokens : Item → List (List Token)
  | single statement => [statement.tokens]
  | cluster name statements =>
    [.keyword .subgraph, tokenOf name.toList, .mark '\x7b'] :: (statements.map Statement.tokens ++ [[.mark '\x7d']])

def headTokens (name : String) : List Token :=
  .keyword .digraph :: ((if name == "" then [] else [tokenOf name.toList]) ++ [.mark '\x7b'])

def Graph.tokens (graph : Graph) : List Token :=
  (headTokens graph.name :: (graph.items.flatMap Item.lineTokens ++ [[.mark '\x7d']])).flatten

/-- What a reader sees of statements. -/
def pictureOf (statements : List Statement) : Picture where
  nodes := (statements.filterMap Statement.node?).map fun node => seen node.toList
  edges := (statements.filterMap Statement.edge?).map fun edge => (⟨seen edge.1.toList, []⟩, ⟨seen edge.2.toList, []⟩)

section Words

theorem quoteEnd_of_whole {text : Text} (whole : ':' ∉ text) : quoteEnd text = quote text := by
  have all : ∀ c ∈ text, (c != ':') = true := fun c member => bne_iff_ne.mpr fun same => whole (same ▸ member)
  have split : atColon text = (text, []) := by
    rw [atColon, List.takeWhile_eq_self_iff.mpr all, List.dropWhile_eq_nil_iff.mpr all]
    rfl
  have none : atColon [] = ([], []) := rfl
  simp only [quoteEnd, split, none]
  simp

theorem spells_setting {setting : Setting} (sound : SoundSetting setting) :
    Spells (settingText setting) (settingTokens setting) :=
  (spells_quote sound.1.toQuotable).append ((spells_quote sound.2).cons_mark (by decide)) rfl

theorem spells_settings {values : List Setting} (sound : ∀ value ∈ values, SoundSetting value) :
    Spells (settingsText values) (values.flatMap settingTokens) := by
  induction values with
  | nil => exact spells_nil
  | cons value rest ih =>
    obtain ⟨here, there⟩ := List.forall_mem_cons.mp sound
    have first := spells_setting here
    cases rest with
    | nil =>
      rw [settingsText, List.map_singleton, List.intercalate_singleton, List.flatMap_singleton]
      exact first
    | cons next rest =>
      have joined : settingsText (value :: next :: rest) = settingText value ++ ' ' :: settingsText (next :: rest) := by
        rw [settingsText, settingsText, List.map_cons, List.map_cons, List.intercalate_cons_cons, List.append_assoc]
        rfl
      rw [joined, List.flatMap_cons]
      exact first.append ((ih there).cons_gap (by decide)) rfl

theorem spells_bracketed {values : List Setting} (sound : ∀ value ∈ values, SoundSetting value) :
    Spells (bracketed values) (bracketTokens values) := by
  have closed : Spells (settingsText values ++ [']']) (values.flatMap settingTokens ++ [.mark ']']) :=
    (spells_settings sound).append (spells_nil.cons_mark (by decide)) rfl
  have opened : Spells (' ' :: '[' :: (settingsText values ++ [']'])) (bracketTokens values) :=
    (closed.cons_mark (by decide)).cons_gap (by decide)
  rwa [bracketed, List.append_assoc]

theorem spells_keyword {text : Text} {word : Keyword} (known : word? text = some (.keyword word))
    (plain : Text.isIdentifier text = true) : Spells text [.keyword word] :=
  spells_isIdentifier plain known

theorem spells_statement {statement : Statement} (sound : statement.Sound) :
    Spells statement.text statement.tokens := by
  cases statement with
  | settings values => exact spells_settings sound
  | defaults target values =>
    obtain ⟨known, sound⟩ := sound
    have brackets := spells_bracketed sound
    rcases List.mem_pair.mp known with rfl | rfl
    · exact (spells_keyword (by decide) (by decide)).append brackets rfl
    · exact (spells_keyword (by decide) (by decide)).append brackets rfl
  | node id values =>
    obtain ⟨named, sound⟩ := sound
    exact (spells_quote named.toQuotable).append (spells_bracketed sound) rfl
  | edge tail head values =>
    obtain ⟨from_here, to_there, sound⟩ := sound
    have behind : Spells (quote head.toList ++ bracketed values) (tokenOf head.toList :: bracketTokens values) :=
      (spells_quote to_there.toQuotable).append (spells_bracketed sound) rfl
    have arrow : Spells (' ' :: '-' :: '>' :: ' ' :: (quote head.toList ++ bracketed values))
        (.arrow :: tokenOf head.toList :: bracketTokens values) :=
      (behind.cons_gap (by decide)).cons_arrow.cons_gap (by decide)
    rw [Statement.text, quoteEnd_of_whole from_here.whole, quoteEnd_of_whole to_there.whole, List.append_assoc,
      List.append_assoc]
    exact (spells_quote from_here.toQuotable).append arrow rfl

/-- Lines are read one after the other. -/
theorem spells_lines {lines : List Text} {tokens : List (List Token)} (each : List.Forall₂ Spells lines tokens) :
    Spells (lines.flatMap (· ++ ['\n'])) tokens.flatten := by
  induction each with
  | nil => exact spells_nil
  | cons here _ ih =>
    rw [List.flatMap_cons, List.flatten_cons, List.append_assoc]
    exact here.append (ih.cons_gap (by decide)) rfl

/-- A name in front of the brace that it is the name of. -/
theorem spells_title {name : String} (quotable : Quotable name.toList) :
    Spells (' ' :: (quote name.toList ++ [' ', '\x7b'])) [tokenOf name.toList, .mark '\x7b'] := by
  have brace : Spells [' ', '\x7b'] [.mark '\x7b'] := (spells_nil.cons_mark (by decide)).cons_gap (by decide)
  exact ((spells_quote quotable).append brace rfl).cons_gap (by decide)

theorem spells_headLine {name : String} (quotable : Quotable name.toList) :
    Spells (headLine name) (headTokens name) := by
  have word : Spells "digraph".toList [.keyword .digraph] := spells_keyword (by decide) (by decide)
  unfold headLine headTokens
  split
  · have brace : Spells [' ', '\x7b'] [.mark '\x7b'] := (spells_nil.cons_mark (by decide)).cons_gap (by decide)
    exact word.append brace rfl
  · have whole := word.append (spells_title quotable) rfl
    rwa [List.append_assoc, List.append_assoc]

theorem spells_item {item : Item} (sound : item.Sound) : List.Forall₂ Spells item.lines item.lineTokens := by
  cases item with
  | single statement => exact .cons ((spells_statement sound).cons_gap (by decide)) .nil
  | cluster name statements =>
    obtain ⟨quotable, sound⟩ := sound
    have word : Spells "subgraph".toList [.keyword .subgraph] := spells_keyword (by decide) (by decide)
    have head : Spells ('\t' :: ("subgraph".toList ++ ' ' :: (quote name.toList ++ [' ', '\x7b'])))
        [.keyword .subgraph, tokenOf name.toList, .mark '\x7b'] :=
      (word.append (spells_title quotable) rfl).cons_gap (by decide)
    have inner : List.Forall₂ Spells (statements.map fun statement => '\t' :: '\t' :: statement.text)
        (statements.map Statement.tokens) := by
      rw [List.forall₂_map_left_iff, List.forall₂_map_right_iff, List.forall₂_same]
      intro statement member
      exact ((spells_statement (sound statement member)).cons_gap (by decide)).cons_gap (by decide)
    have tail : Spells ['\t', '\x7d'] [.mark '\x7d'] := (spells_nil.cons_mark (by decide)).cons_gap (by decide)
    refine .cons ?_ (List.rel_append inner (.cons tail .nil))
    rwa [List.append_assoc]

/-- A graph whose names can be quoted is made of words. -/
theorem words?_render {graph : Graph} (sound : graph.Sound) : words? graph.render = some graph.tokens := by
  have items : ∀ items : List Item, (∀ item ∈ items, item.Sound) →
      List.Forall₂ Spells (items.flatMap Item.lines) (items.flatMap Item.lineTokens) := by
    intro items each
    induction items with
    | nil => exact .nil
    | cons item rest ih =>
      obtain ⟨here, there⟩ := List.forall_mem_cons.mp each
      exact List.rel_append (spells_item here) (ih there)
  have brace : Spells ['\x7d'] [.mark '\x7d'] := spells_nil.cons_mark (by decide)
  exact words?_of_spells (spells_lines (.cons (spells_headLine sound.name)
    (List.rel_append (items graph.items sound.items) (.cons brace .nil))))

end Words

section Body
variable {depth : Nat} {rest : List Token}

theorem isValue_tokenOf (text : Text) : (tokenOf text).isValue = true := by
  unfold tokenOf
  split <;> rfl

theorem tokenOf_nameable {text : Text} (nameable : Nameable text) : tokenOf text = .name ⟨seen text, []⟩ := by
  rw [tokenOf, nameable.plain]
  rfl

theorem readBody_setting (inside : Bool) {setting : Setting} (sound : SoundSetting setting) :
    readBody inside depth (settingTokens setting ++ rest) = readBody inside depth rest := by
  have written : settingTokens setting ++ rest =
      .name ⟨seen setting.1.toList, []⟩ :: .mark '=' :: tokenOf setting.2.toList :: rest := by
    rw [settingTokens, tokenOf_nameable sound.1]
    rfl
  have value := isValue_tokenOf setting.2.toList
  rw [written]
  cases inside <;> simp [readBody, value]

theorem readBody_settings (inside : Bool) {values : List Setting} (sound : ∀ value ∈ values, SoundSetting value) :
    readBody inside depth (values.flatMap settingTokens ++ rest) = readBody inside depth rest := by
  induction values with
  | nil => rfl
  | cons value values ih =>
    obtain ⟨here, there⟩ := List.forall_mem_cons.mp sound
    rw [List.flatMap_cons, List.append_assoc, readBody_setting inside here, ih there]

theorem readBody_closed {values : List Setting} (sound : ∀ value ∈ values, SoundSetting value) :
    readBody true depth (values.flatMap settingTokens ++ [.mark ']'] ++ rest) = readBody false depth rest := by
  rw [List.append_assoc, readBody_settings true sound]
  rfl

theorem readBody_statement {statement : Statement} (sound : statement.Sound) :
    readBody false depth (statement.tokens ++ rest) = (readBody false depth rest).map (pictureOf [statement]).join := by
  have unseen := Picture.map_empty_join (readBody false depth rest)
  cases statement with
  | settings values => exact (readBody_settings false sound).trans unseen.symm
  | defaults target values =>
    obtain ⟨known, sound⟩ := sound
    have closed : readBody true depth (values.flatMap settingTokens ++ [.mark ']'] ++ rest) =
        readBody false depth rest :=
      readBody_closed sound
    rcases List.mem_pair.mp known with rfl | rfl
    · exact closed.trans unseen.symm
    · exact closed.trans unseen.symm
  | node id values =>
    obtain ⟨named, sound⟩ := sound
    have written : (Statement.node id values).tokens = .name ⟨seen id.toList, []⟩ :: bracketTokens values := by
      rw [Statement.tokens, tokenOf_nameable named]
    rw [written]
    exact congrArg (Option.map (Picture.join ⟨[seen id.toList], []⟩)) (readBody_closed sound)
  | edge tail head values =>
    obtain ⟨from_here, to_there, sound⟩ := sound
    have written : (Statement.edge tail head values).tokens =
        .name ⟨seen tail.toList, []⟩ :: .arrow :: .name ⟨seen head.toList, []⟩ :: bracketTokens values := by
      rw [Statement.tokens, tokenOf_nameable from_here.toNameable, tokenOf_nameable to_there.toNameable]
    rw [written]
    exact congrArg (Option.map (Picture.join ⟨[], [(⟨seen tail.toList, []⟩, ⟨seen head.toList, []⟩)]⟩))
      (readBody_closed sound)

theorem pictureOf_append (first second : List Statement) :
    pictureOf (first ++ second) = (pictureOf first).join (pictureOf second) := by
  simp [pictureOf, Picture.join]

theorem readBody_statements {statements : List Statement} (sound : ∀ statement ∈ statements, statement.Sound) :
    readBody false depth (statements.flatMap Statement.tokens ++ rest) =
      (readBody false depth rest).map (pictureOf statements).join := by
  induction statements with
  | nil => exact (Picture.map_empty_join _).symm
  | cons statement statements ih =>
    obtain ⟨here, there⟩ := List.forall_mem_cons.mp sound
    have split : pictureOf (statement :: statements) = (pictureOf [statement]).join (pictureOf statements) :=
      pictureOf_append [statement] statements
    rw [List.flatMap_cons, List.append_assoc, readBody_statement here, ih there, Option.map_map, split]
    congr 1
    funext picture
    exact (Picture.join_assoc _ _ _).symm

theorem readBody_item {item : Item} (sound : item.Sound) :
    readBody false depth (item.lineTokens.flatten ++ rest) =
      (readBody false depth rest).map (pictureOf item.statements).join := by
  cases item with
  | single statement =>
    have written : (Item.single statement).lineTokens.flatten = statement.tokens := List.append_nil _
    rw [written]
    exact readBody_statement sound
  | cluster name statements =>
    obtain ⟨_, sound⟩ := sound
    have written : (Item.cluster name statements).lineTokens.flatten ++ rest =
        .keyword .subgraph :: tokenOf name.toList :: .mark '\x7b' ::
          (statements.flatMap Statement.tokens ++ .mark '\x7d' :: rest) := by
      simp [Item.lineTokens, List.flatMap_def]
    have title := isValue_tokenOf name.toList
    have opened : readBody false depth (.keyword .subgraph :: tokenOf name.toList :: .mark '\x7b' ::
        (statements.flatMap Statement.tokens ++ .mark '\x7d' :: rest)) =
          readBody false (depth + 1) (statements.flatMap Statement.tokens ++ .mark '\x7d' :: rest) := by
      simp [readBody, title]
    rw [written, opened, readBody_statements sound]
    rfl

theorem readBody_items {items : List Item} (sound : ∀ item ∈ items, item.Sound) :
    readBody false depth ((items.flatMap Item.lineTokens).flatten ++ rest) =
      (readBody false depth rest).map (pictureOf (items.flatMap Item.statements)).join := by
  induction items with
  | nil => exact (Picture.map_empty_join _).symm
  | cons item items ih =>
    obtain ⟨here, there⟩ := List.forall_mem_cons.mp sound
    rw [List.flatMap_cons, List.flatten_append, List.append_assoc, readBody_item here, ih there, Option.map_map,
      List.flatMap_cons, pictureOf_append]
    congr 1
    funext picture
    exact (Picture.join_assoc _ _ _).symm

/-- A token that is neither a colon nor what follows one. -/
def Token.isWhole : Token → Bool
  | .mark c => c != ':'
  | .ports _ => false
  | _ => true

/-- Without colons there are no ports to be gathered. -/
theorem gathered_of_whole {tokens : List Token} (whole : ∀ token ∈ tokens, token.isWhole = true) :
    gathered tokens = tokens := by
  induction tokens with
  | nil => rfl
  | cons token tokens ih =>
    obtain ⟨here, there⟩ := List.forall_mem_cons.mp whole
    have same := ih there
    unfold gathered
    split
    · next found => cases found
    · next found =>
      obtain ⟨rfl, rfl⟩ := List.cons.inj found
      cases here
    · next place _ found =>
      obtain ⟨rfl, rfl⟩ := List.cons.inj found
      rw [same]
      split
      · cases there _ List.mem_cons_self
      · rfl
    · next found =>
      obtain ⟨rfl, rfl⟩ := List.cons.inj found
      rw [same]

end Body

section Graph
variable {graph : Graph}

theorem isWhole_tokenOf (text : Text) : (tokenOf text).isWhole = true := by
  unfold tokenOf
  split <;> rfl

theorem isWhole_settings (values : List Setting) : ∀ token ∈ values.flatMap settingTokens, token.isWhole = true := by
  refine List.forall_mem_flatMap.mpr fun setting _ => ?_
  exact List.forall_mem_cons.mpr ⟨isWhole_tokenOf _, List.forall_mem_cons.mpr ⟨by decide,
    List.forall_mem_singleton.mpr (isWhole_tokenOf _)⟩⟩

theorem isWhole_brackets (values : List Setting) : ∀ token ∈ bracketTokens values, token.isWhole = true :=
  List.forall_mem_cons.mpr ⟨by decide, List.forall_mem_append.mpr ⟨isWhole_settings values,
    List.forall_mem_singleton.mpr (by decide)⟩⟩

theorem isWhole_statement (statement : Statement) : ∀ token ∈ statement.tokens, token.isWhole = true := by
  cases statement with
  | settings values => exact isWhole_settings values
  | defaults target values =>
    refine List.forall_mem_cons.mpr ⟨?_, isWhole_brackets values⟩
    split <;> rfl
  | node id values => exact List.forall_mem_cons.mpr ⟨isWhole_tokenOf _, isWhole_brackets values⟩
  | edge tail head values =>
    exact List.forall_mem_cons.mpr ⟨isWhole_tokenOf _, List.forall_mem_cons.mpr ⟨rfl,
      List.forall_mem_cons.mpr ⟨isWhole_tokenOf _, isWhole_brackets values⟩⟩⟩

theorem isWhole_item (item : Item) : ∀ line ∈ item.lineTokens, ∀ token ∈ line, token.isWhole = true := by
  cases item with
  | single statement => exact List.forall_mem_singleton.mpr (isWhole_statement statement)
  | cluster name statements =>
    refine List.forall_mem_cons.mpr ⟨?_, List.forall_mem_append.mpr ⟨?_, ?_⟩⟩
    · exact List.forall_mem_cons.mpr ⟨rfl, List.forall_mem_cons.mpr ⟨isWhole_tokenOf _,
        List.forall_mem_singleton.mpr (by decide)⟩⟩
    · exact List.forall_mem_map.mpr fun statement _ => isWhole_statement statement
    · exact List.forall_mem_singleton.mpr (List.forall_mem_singleton.mpr (by decide))

theorem isWhole_tokens (graph : Graph) : ∀ token ∈ graph.tokens, token.isWhole = true := by
  have head : ∀ token ∈ headTokens graph.name, token.isWhole = true := by
    refine List.forall_mem_cons.mpr ⟨rfl, List.forall_mem_append.mpr ⟨?_, List.forall_mem_singleton.mpr (by decide)⟩⟩
    split
    · exact List.forall_mem_nil _
    · exact List.forall_mem_singleton.mpr (isWhole_tokenOf _)
  have lines : ∀ line ∈ headTokens graph.name :: (graph.items.flatMap Item.lineTokens ++ [[.mark '\x7d']]),
      ∀ token ∈ line, token.isWhole = true :=
    List.forall_mem_cons.mpr ⟨head, List.forall_mem_append.mpr
      ⟨List.forall_mem_flatMap.mpr fun item _ => isWhole_item item,
        List.forall_mem_singleton.mpr (List.forall_mem_singleton.mpr (by decide))⟩⟩
  intro token member
  obtain ⟨line, inside, member⟩ := List.mem_flatten.mp member
  exact lines line inside token member

theorem readGraph_head (name : String) (rest : List Token) :
    readGraph (headTokens name ++ rest) = readBody false 0 rest := by
  unfold headTokens
  split
  · rfl
  · unfold tokenOf
    split <;> rfl

/-- A graph whose names can be quoted is read back from its text. -/
theorem read?_render (sound : graph.Sound) : read? graph.render = some (pictureOf graph.statements) := by
  have closed : readBody false 0 [.mark '\x7d'] = some Picture.empty := rfl
  have body : graph.tokens = headTokens graph.name ++
      ((graph.items.flatMap Item.lineTokens).flatten ++ [.mark '\x7d']) := by
    simp [Graph.tokens]
  have whole : (pictureOf graph.statements).join .empty = pictureOf graph.statements := by
    simp [Picture.join, Picture.empty]
  rw [read?, words?_render sound, Option.bind_some, gathered_of_whole (isWhole_tokens graph), body, readGraph_head,
    readBody_items sound.items, closed, Option.map_some]
  exact congrArg some whole

end Graph

end Dot
end SchemaAtlas
