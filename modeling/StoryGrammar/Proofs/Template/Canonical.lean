import StoryGrammar.Proofs.Template.Explaining

set_option autoImplicit false

/-!
# Canonical templates

The templates that some text spells, said of the templates themselves, and a text for each of
them. The text escapes every character that may be escaped, so that nothing in it is taken for a
mark of the language.
-/

namespace StoryGrammar

/-! ## Printing -/

namespace Template

/-- A backslash before each character, also where there is no need for one. -/
def escaped (text : String) : List Char :=
  text.toList.flatMap fun character => ['\\', character]

def printFilter : Option Filter → List Char
  | none => []
  | some filter => '{' :: filter.pattern.toList ++ ['}']

def printArguments : List String → List Char
  | [] => []
  | [argument] => escaped argument
  | argument :: arguments => escaped argument ++ ',' :: printArguments arguments

def printModifier (modifier : AppliedModifier) : List Char :=
  if modifier.arguments.isEmpty then modifier.name.toList
  else modifier.name.toList ++ '(' :: printArguments modifier.arguments ++ [')']

def printModifiers (modifiers : List AppliedModifier) : List Char :=
  modifiers.flatMap fun modifier => '.' :: printModifier modifier

mutual

def printNode : Node → List Char
  | .literal text => escaped text
  | .binding actions => '#' :: printActions actions ++ ['#']
  | .reference actions symbol filter modifiers =>
      '#' :: printActions actions ++ symbol.toList ++ printFilter filter ++
        printModifiers modifiers ++ ['#']

def printSequence : List Node → List Char
  | [] => []
  | node :: rest => printNode node ++ printSequence rest

def printActions : List Action → List Char
  | [] => []
  | .bind reset key values :: rest =>
      '[' :: mark reset ++ key.toList ++ ':' :: printValues values ++ [']'] ++ printActions rest

def printValues : List ActionValue → List Char
  | [] => []
  | .value operator template :: rest =>
      sign operator ++ printSequence template ++
        match rest with
        | [] => []
        | _ :: _ => ',' :: printValues rest

end

def print (template : Template) : String :=
  String.ofList (printSequence template)

/-! ## Canonical templates -/

def trimmed (text : String) : String :=
  String.ofList (Text.trim text.toList)

/-- Neither the first nor the last character is white space. -/
structure Trimmed (text : String) : Prop where
  first : ∀ character ∈ text.toList.head?, Unicode.isBlank character = false
  last : ∀ character ∈ text.toList.getLast?, Unicode.isBlank character = false

structure CanonicalModifier (modifier : AppliedModifier) : Prop where
  named : IsName modifier.name
  trimmed : ∀ argument ∈ modifier.arguments, Trimmed argument
  several : modifier.arguments ≠ [""]

mutual

inductive CanonicalSequence : Template → Prop where
  | nil : CanonicalSequence []
  | literal {text : String} {rest : Template} :
      text ≠ "" → ¬ StartsWithLiteral rest → CanonicalSequence rest →
      CanonicalSequence (.literal text :: rest)
  | binding {actions : List Action} {rest : Template} :
      actions ≠ [] → CanonicalActions actions → CanonicalSequence rest →
      CanonicalSequence (.binding actions :: rest)
  | reference {actions : List Action} {symbol : String} {filter : Option Filter}
      {modifiers : List AppliedModifier} {rest : Template} :
      CanonicalActions actions → IsName symbol →
      (∀ given ∈ filter, IsPattern given.pattern.toList) →
      (∀ modifier ∈ modifiers, CanonicalModifier modifier) → CanonicalSequence rest →
      CanonicalSequence (.reference actions symbol filter modifiers :: rest)

inductive CanonicalActions : List Action → Prop where
  | nil : CanonicalActions []
  | cons {reset : Bool} {key : String} {values : List ActionValue} {rest : List Action} :
      IsName key → (reset = false → key.toList.head? ≠ some '!') → values ≠ [] →
      CanonicalValues values → CanonicalActions rest →
      CanonicalActions (.bind reset key values :: rest)

inductive CanonicalValues : List ActionValue → Prop where
  | nil : CanonicalValues []
  | cons {operator : ValueOperator} {template : Template} {rest : List ActionValue} :
      CanonicalSequence template → CanonicalValues rest →
      CanonicalValues (.value operator template :: rest)

end

/-- What can be said of every template that some text spells. That a filter compiles is part of its
type. -/
structure Canonical (template : Template) : Prop where
  sequence : CanonicalSequence template
  shallow : template.nesting ≤ nestingLimit

/-! ## What is read is canonical -/

theorem CanonicalSequence.prepend {template : Template} (canonical : CanonicalSequence template)
    (character : Char) : CanonicalSequence (prepend character template) := by
  have inhabited : ∀ text, String.singleton character ++ text ≠ "" := by
    intro text empty
    simpa using congrArg String.toList empty
  have single : String.singleton character ≠ "" := by simp
  cases canonical with
  | nil => exact .literal single id .nil
  | literal _ apart rest => exact .literal (inhabited _) apart rest
  | binding acting actions rest => exact .literal single id (.binding acting actions rest)
  | reference actions named filtered modified rest =>
      exact .literal single id (.reference actions named filtered modified rest)

theorem trimmed_trim (characters : List Char) : Trimmed (String.ofList (Text.trim characters)) where
  first := by simpa using Text.head?_trim characters
  last := by simpa using Text.getLast?_trim characters

theorem SpellsArguments.trimmed {text : List Char} {arguments : List String}
    (spelled : SpellsArguments text arguments) : ∀ argument ∈ arguments, Trimmed argument := by
  induction spelled with
  | last =>
      intro argument member
      rw [List.mem_singleton.mp member]
      exact trimmed_trim _
  | more _ _ ih =>
      intro argument member
      rcases List.mem_cons.mp member with rfl | later
      · exact trimmed_trim _
      · exact ih argument later

theorem SpellsModifier.canonical {text : List Char} {modifier : AppliedModifier}
    (spelled : SpellsModifier text modifier) : CanonicalModifier modifier := by
  cases spelled with
  | plain named => exact ⟨named, by simp, by simp⟩
  | applied named given =>
      refine ⟨named, ?_, ?_⟩
      · intro argument member
        simp only at member
        split at member
        · cases member
        · exact given.trimmed argument member
      · simp only
        split
        · simp
        · assumption

theorem SpellsModifiers.canonical {text : List Char} {modifiers : List AppliedModifier}
    (spelled : SpellsModifiers text modifiers) :
    ∀ modifier ∈ modifiers, CanonicalModifier modifier := by
  induction spelled with
  | nil => simp
  | cons first _ ih =>
      intro modifier member
      rcases List.mem_cons.mp member with rfl | later
      · exact first.canonical
      · exact ih modifier later

theorem SpellsFilter.canonical {text : List Char} {filter : Option Filter}
    (spelled : SpellsFilter text filter) : ∀ given ∈ filter, IsPattern given.pattern.toList := by
  cases spelled with
  | absent => simp
  | present admitted compiled =>
      intro given member
      cases member
      rwa [Filter.ofPattern?_eq_some_iff.mp compiled]

theorem SpellsValues.ne_nil {text : List Char} {values : List ActionValue}
    (spelled : SpellsValues text values) : values ≠ [] := by
  cases spelled <;> simp

mutual

theorem SpellsSequence.canonical {inValue : Bool} {text : List Char} {template : Template} :
    SpellsSequence inValue text template → CanonicalSequence template
  | .nil => .nil
  | .character _ spelled => spelled.canonical.prepend _
  | .escape spelled => spelled.canonical.prepend _
  | .reference first others => first.canonical others.canonical

theorem SpellsReference.canonical {text : List Char} {node : Node} {rest : Template} :
    SpellsReference text node → CanonicalSequence rest → CanonicalSequence (node :: rest)
  | .binding spelled acting, others => .binding acting spelled.canonical others
  | .reference spelled named filtered modified, others =>
      .reference spelled.canonical named filtered.canonical modified.canonical others

theorem SpellsActions.canonical {text : List Char} {actions : List Action} :
    SpellsActions text actions → CanonicalActions actions
  | .nil => .nil
  | .cons first others => first.canonical others.canonical

theorem SpellsAction.canonical {text : List Char} {action : Action} {rest : List Action} :
    SpellsAction text action → CanonicalActions rest → CanonicalActions (action :: rest)
  | .plain named unmarked spelled, others =>
      .cons named (fun _ => unmarked) spelled.ne_nil spelled.canonical others
  | .reset named spelled, others => .cons named (by simp) spelled.ne_nil spelled.canonical others

theorem SpellsValues.canonical {text : List Char} {values : List ActionValue} :
    SpellsValues text values → CanonicalValues values
  | .last spelled => spelled.canonical .nil
  | .more first others => first.canonical others.canonical

theorem SpellsValue.canonical {text : List Char} {value : ActionValue} {rest : List ActionValue} :
    SpellsValue text value → CanonicalValues rest → CanonicalValues (value :: rest)
  | .set spelled _ _, others => .cons spelled.canonical others
  | .add spelled, others => .cons spelled.canonical others
  | .remove spelled, others => .cons spelled.canonical others

end

theorem Derives.canonical {text : String} {template : Template} (derived : Derives text template) :
    Canonical template :=
  ⟨derived.1.canonical, derived.2⟩

/-! ## What is printed is spelled -/

theorem spellsArgument_escaped (argument : List Char) :
    SpellsArgument (argument.flatMap fun character => ['\\', character]) argument := by
  induction argument with
  | nil => exact .nil
  | cons character rest ih => exact .escape ih

/-- Arguments are trimmed after their escapes are taken away, so that an escaped blank at an end is
lost as well. -/
theorem spellsArguments_escaped {arguments : List String} (given : arguments ≠ []) :
    SpellsArguments (printArguments arguments) (arguments.map trimmed) := by
  induction arguments with
  | nil => exact absurd rfl given
  | cons argument rest ih =>
      have spelled := spellsArgument_escaped argument.toList
      cases rest with
      | nil => exact .last spelled
      | cons next others => exact .more spelled (ih (by simp))

theorem Trimmed.trimmed_eq {text : String} (kept : Trimmed text) : trimmed text = text := by
  rw [trimmed, Text.trim_eq_self kept.first kept.last, String.ofList_toList]

/-- A trimmed argument survives the trimming. -/
theorem map_trimmed {arguments : List String}
    (kept : ∀ argument ∈ arguments, Trimmed argument) : arguments.map trimmed = arguments :=
  (List.map_congr_left fun argument member => (kept argument member).trimmed_eq).trans
    (List.map_id' arguments)

theorem CanonicalModifier.spells {modifier : AppliedModifier}
    (canonical : CanonicalModifier modifier) :
    SpellsModifier (printModifier modifier) modifier := by
  obtain ⟨name, arguments⟩ := modifier
  obtain ⟨named, kept, several⟩ := canonical
  cases arguments with
  | nil => exact .plain named
  | cons argument rest =>
      have given := spellsArguments_escaped (List.cons_ne_nil argument rest)
      rw [map_trimmed kept] at given
      have spelled := SpellsModifier.applied named given
      rwa [if_neg several] at spelled

theorem spellsModifiers_print {modifiers : List AppliedModifier}
    (canonical : ∀ modifier ∈ modifiers, CanonicalModifier modifier) :
    SpellsModifiers (printModifiers modifiers) modifiers := by
  induction modifiers with
  | nil => exact .nil
  | cons modifier rest ih =>
      have others := ih fun other member => canonical other (.tail _ member)
      exact .cons (canonical modifier (.head _)).spells others

theorem spellsFilter_print {filter : Option Filter}
    (canonical : ∀ given ∈ filter, IsPattern given.pattern.toList) :
    SpellsFilter (printFilter filter) filter := by
  cases filter with
  | none => exact .absent
  | some filter =>
      exact .present (canonical filter rfl) (Filter.ofPattern?_eq_some_iff.mpr rfl)

theorem prepend_of_not_startsWithLiteral {template : Template} (character : Char)
    (apart : ¬ StartsWithLiteral template) :
    prepend character template = .literal (String.singleton character) :: template := by
  cases template with
  | nil => rfl
  | cons node rest =>
      cases node with
      | literal text => exact absurd trivial apart
      | binding actions => rfl
      | reference actions symbol filter modifiers => rfl

theorem spellsSequence_escaped {inValue : Bool} {text : String} {rest : List Char}
    {template : Template} (inhabited : text ≠ "") (apart : ¬ StartsWithLiteral template)
    (spelled : SpellsSequence inValue rest template) :
    SpellsSequence inValue (escaped text ++ rest) (.literal text :: template) := by
  obtain ⟨characters, rfl⟩ : ∃ characters, text = String.ofList characters :=
    ⟨text.toList, by simp⟩
  unfold escaped
  rw [String.toList_ofList]
  induction characters with
  | nil => exact absurd rfl inhabited
  | cons character others ih =>
      cases others with
      | nil =>
          have one := prepend_of_not_startsWithLiteral character apart
          exact one ▸ .escape spelled
      | cons next further =>
          have following := ih (by simp [String.ofList_eq_empty_iff])
          rw [String.ofList_cons]
          exact .escape following

/-- A printed sequence begins with an escape or a reference, so it is never taken for a value with
an operator. -/
theorem CanonicalSequence.unsigned {template : Template} (canonical : CanonicalSequence template) :
    (printSequence template).head? ≠ some '+' ∧ (printSequence template).head? ≠ some '-' := by
  cases canonical with
  | nil => simp [printSequence]
  | @literal text rest inhabited _ _ =>
      cases spelled : text.toList with
      | nil => exact absurd (String.toList_eq_nil_iff.mp spelled) inhabited
      | cons character others => simp [printSequence, printNode, escaped, spelled]
  | binding => simp [printSequence, printNode]
  | reference => simp [printSequence, printNode]

mutual

theorem CanonicalSequence.spells {inValue : Bool} {template : Template} :
    CanonicalSequence template → SpellsSequence inValue (printSequence template) template
  | .nil => .nil
  | .literal inhabited apart rest => spellsSequence_escaped inhabited apart rest.spells
  | .binding acting actions rest => .reference (.binding actions.spells acting) rest.spells
  | .reference actions named filtered modified rest =>
      .reference (.reference actions.spells named (spellsFilter_print filtered)
        (spellsModifiers_print modified)) rest.spells

theorem CanonicalActions.spells {actions : List Action} :
    CanonicalActions actions → SpellsActions (printActions actions) actions
  | .nil => .nil
  | .cons named unmarked given values rest =>
      .cons (.marked named unmarked (values.spells given)) rest.spells

theorem CanonicalValues.spells {values : List ActionValue} :
    CanonicalValues values → values ≠ [] → SpellsValues (printValues values) values
  | .nil, given => absurd rfl given
  | @CanonicalValues.cons _ _ [] template _, _ => by
      rw [printValues, List.append_nil]
      exact .last (.signed template.spells fun _ => template.unsigned)
  | @CanonicalValues.cons _ _ (_ :: _) template others, _ =>
      .more (.signed template.spells fun _ => template.unsigned) (others.spells (by simp))

end

/-! ## Reading what is printed -/

theorem Canonical.derives_print {template : Template} (canonical : Canonical template) :
    Derives (print template) template := by
  refine ⟨?_, canonical.shallow⟩
  rw [print, String.toList_ofList]
  exact canonical.sequence.spells

/-- The templates that reading gives are the canonical ones, and each of them is what reading its
own print gives. -/
theorem parse_print (template : Template) :
    ((∃ text, parse text = .ok template) ↔ Canonical template) ∧
      (Canonical template ↔ parse (print template) = .ok template) := by
  have canonical : ∀ text, parse text = .ok template → Canonical template :=
    fun text parsed => (derives_of_parse parsed).canonical
  have printed : Canonical template → parse (print template) = .ok template :=
    fun given => parse_of_derives given.derives_print
  exact ⟨⟨fun ⟨text, parsed⟩ => canonical text parsed, fun given => ⟨_, printed given⟩⟩,
    ⟨printed, canonical _⟩⟩

/-- Under a reset a key may begin with the mark itself, and a value with the sign of an operator. -/
example :
    print [.reference [.bind true "!k" [.value .set [.literal "+"]]] "s" none [⟨"f", ["e", ""]⟩]] =
      "#[!!k:\\+]s.f(\\e,)#" :=
  rfl

end Template

end StoryGrammar
