import BucketCatalog.Proofs.Text
import BucketCatalog.Regex.Parser

/-!
# Reading a text with a parenthesis after it

A closing parenthesis after a text does not change what is read from the text.  What is left of
both is the same up to the parenthesis, which is left as well unless a comment takes it in.  A text
that ends inside a part is not well formed, so nothing is said about it: the parenthesis may be
what its last part lacks.
-/

namespace BucketCatalog
namespace Regex

/-- What is left of a text, and what is left of the same text with a parenthesis after it. -/
inductive Followed : List Char → List Char → Prop where
  /-- Nothing is left, since a comment took in the parenthesis. -/
  | taken : Followed [] []
  /-- The parenthesis is left. -/
  | close : Followed [] [')']
  /-- The parenthesis comes after more text. -/
  | cons (char : Char) (rest : List Char) : Followed (char :: rest) (char :: (rest ++ [')']))

theorem isBlank_close : Unicode.isBlank ')' = false := by
  rw [Unicode.isBlank, Unicode.whiteSpace, Unicode.Ranges.ofLines, Unicode.Ranges.ofList,
    List.mergeSort_of_pairwise (by decide +kernel)]
  decide +kernel

theorem skipComments_length_le (comment : Bool) (text : List Char) :
    (skipComments comment text).length ≤ text.length := by
  induction text generalizing comment with
  | nil => cases comment <;> exact le_rfl
  | cons char text ih =>
      have shorter : ∀ comment, (skipComments comment text).length ≤ (char :: text).length :=
        fun comment => (ih comment).trans (Nat.le_succ _)
      cases comment with
      | true => exact shorter _
      | false =>
          rw [skipComments]
          split
          · exact shorter false
          · split
            · exact shorter true
            · exact le_rfl

theorem Flags.skip_length_le (flags : Flags) (text : List Char) :
    (flags.skip text).length ≤ text.length := by
  rw [Flags.skip]
  split
  · exact skipComments_length_le false text
  · exact le_rfl

namespace Followed

variable {text longer : List Char}

theorem append (text : List Char) : Followed text (text ++ [')']) := by
  cases text with
  | nil => exact .close
  | cons char rest => exact .cons char rest

theorem skipComments (comment : Bool) (text : List Char) :
    Followed (Regex.skipComments comment text) (Regex.skipComments comment (text ++ [')'])) := by
  induction text generalizing comment with
  | nil =>
      cases comment with
      | true => exact .taken
      | false =>
          simp only [List.nil_append, Regex.skipComments, isBlank_close]
          exact .close
  | cons char text ih =>
      cases comment with
      | true => exact ih _
      | false =>
          simp only [List.cons_append, Regex.skipComments]
          split
          · exact ih false
          · split
            · exact ih true
            · exact .cons char text

theorem skip (flags : Flags) (followed : Followed text longer) :
    Followed (flags.skip text) (flags.skip longer) := by
  rw [Flags.skip, Flags.skip]
  split
  · cases followed with
    | taken => exact .taken
    | close => exact skipComments false []
    | cons char rest => exact skipComments false (char :: rest)
  · exact followed

theorem dropWhile {holds : Char → Bool} (other : holds ')' = false)
    (followed : Followed text longer) :
    Followed (text.dropWhile holds) (longer.dropWhile holds) := by
  have appended : ∀ text : List Char,
      Followed (text.dropWhile holds) ((text ++ [')']).dropWhile holds) := by
    intro text
    induction text with
    | nil =>
        rw [List.nil_append, List.dropWhile_cons_of_neg (by simp [other])]
        exact .close
    | cons char text ih =>
        simp only [List.cons_append, List.dropWhile_cons]
        split
        · exact ih
        · exact .cons char text
  cases followed with
  | taken => exact .taken
  | close => exact appended []
  | cons char rest => exact appended (char :: rest)

theorem dropBlanks (flags : Flags) (followed : Followed text longer) :
    Followed (Regex.dropBlanks flags text) (Regex.dropBlanks flags longer) :=
  (followed.dropWhile isBlank_close).skip flags

theorem length_le (followed : Followed text longer) : text.length ≤ longer.length := by
  cases followed with
  | taken => exact le_rfl
  | close => exact Nat.zero_le _
  | cons char rest => simp

end Followed

/-- Whether a reading of a text and one of the longer text agree: what the first one reads, the
other reads as well, and what is left is followed by the parenthesis. -/
inductive Agrees {α : Type} : Option (α × List Char) → Option (α × List Char) → Prop where
  /-- The text is not well formed. -/
  | failed (long : Option (α × List Char)) : Agrees none long
  /-- Both texts begin with the part. -/
  | read (value : α) {rest left : List Char} (followed : Followed rest left) :
      Agrees (some (value, rest)) (some (value, left))

namespace Agrees

variable {α β : Type} {short long : Option (α × List Char)}

theorem bind {next other : α × List Char → Option (β × List Char)} (agrees : Agrees short long)
    (goes_on : ∀ value rest left, Followed rest left →
      Agrees (next (value, rest)) (other (value, left))) :
    Agrees (short >>= next) (long >>= other) := by
  cases agrees with
  | failed => exact .failed _
  | read value followed => exact goes_on value _ _ followed

theorem map (make : α → β) (agrees : Agrees short long) :
    Agrees (short.map fun found => (make found.1, found.2))
      (long.map fun found => (make found.1, found.2)) := by
  cases agrees with
  | failed => exact .failed _
  | read value followed => exact .read _ followed

/-- A value that both readings need. -/
theorem need {γ : Type} {next other : γ → Option (β × List Char)} (value : Option γ)
    (goes_on : ∀ value, Agrees (next value) (other value)) :
    Agrees (value >>= next) (value >>= other) := by
  cases value with
  | none => exact .failed _
  | some value => exact goes_on value

/-- A value that leaves the text alone. -/
theorem leave {rest left : List Char} (value : Option α) (followed : Followed rest left) :
    Agrees (value.map fun value => (value, rest)) (value.map fun value => (value, left)) := by
  cases value with
  | none => exact .failed _
  | some value => exact .read value followed

/-- A condition that both readings have. -/
theorem ite {condition : Prop} [Decidable condition] {short' long' : Option (α × List Char)}
    (agrees : condition → Agrees short long) (agrees' : ¬condition → Agrees short' long') :
    Agrees (if condition then short else short') (if condition then long else long') := by
  split
  · next holds => exact agrees holds
  · next fails => exact agrees' fails

end Agrees

/-- Whether two readings of a part with two values agree. -/
def Agrees₂ {α β : Type} (short long : Option (α × β × List Char)) : Prop :=
  Agrees (short.map fun found => ((found.1, found.2.1), found.2.2))
    (long.map fun found => ((found.1, found.2.1), found.2.2))

namespace Agrees

variable {α β γ : Type}

theorem bind₂ {short long : Option (α × List Char)}
    {next other : α × List Char → Option (β × γ × List Char)} (agrees : Agrees short long)
    (goes_on : ∀ value rest left, Followed rest left →
      Agrees₂ (next (value, rest)) (other (value, left))) :
    Agrees₂ (short >>= next) (long >>= other) := by
  cases agrees with
  | failed => exact .failed _
  | read value followed => exact goes_on value _ _ followed

theorem ite₂ {condition : Prop} [Decidable condition]
    {short long short' long' : Option (α × β × List Char)}
    (agrees : condition → Agrees₂ short long) (agrees' : ¬condition → Agrees₂ short' long') :
    Agrees₂ (if condition then short else short') (if condition then long else long') := by
  split
  · next holds => exact agrees holds
  · next fails => exact agrees' fails

end Agrees

theorem Agrees₂.bind {α β γ : Type} {short long : Option (α × β × List Char)}
    {next other : α × β × List Char → Option (γ × List Char)} (agrees : Agrees₂ short long)
    (goes_on : ∀ first second rest left, Followed rest left →
      Agrees (next (first, second, rest)) (other (first, second, left))) :
    Agrees (short >>= next) (long >>= other) := by
  cases short with
  | none => exact .failed _
  | some found =>
      cases long with
      | none => nomatch agrees
      | some found' =>
          obtain ⟨first, second, rest⟩ := found
          obtain ⟨first', second', left⟩ := found'
          cases agrees with
          | read value followed => exact goes_on first second rest left followed

section Readers

/-! Some readers go by a bound that is the length of their text, so the bound for the longer text
is the larger one. -/

variable {text longer : List Char} {flags : Flags}

/-! ## Escapes -/

theorem agrees_readHexDigits (count value : Nat) (followed : Followed text longer) :
    Agrees (readHexDigits flags count value text) (readHexDigits flags count value longer) := by
  induction count generalizing value text longer with
  | zero => exact .read value followed
  | succ count ih =>
      rw [readHexDigits, readHexDigits]
      have skipped := followed.skip flags
      generalize flags.skip text = text, flags.skip longer = longer at skipped
      cases skipped with
      | taken | close => exact .failed _
      | cons char rest => exact .need _ fun digit => ih _ (.append rest)

theorem agrees_readHexBraced {bound wide : Nat} (enough : bound ≤ wide) (value : Option Nat)
    (followed : Followed text longer) :
    Agrees (readHexBraced flags bound value text) (readHexBraced flags wide value longer) := by
  induction bound generalizing value text longer wide with
  | zero => exact .failed _
  | succ bound ih =>
      cases wide with
      | zero => contradiction
      | succ wide =>
          rw [readHexBraced, readHexBraced]
          have skipped := followed.skip flags
          generalize flags.skip text = text, flags.skip longer = longer at skipped
          cases skipped with
          | taken | close => exact .failed _
          | cons char rest =>
              by_cases ends : char = '\x7d'
              · subst ends
                cases value with
                | none => exact .failed _
                | some value => exact .read value (.append rest)
              · simp only
                exact .need _ fun digit => ih (Nat.le_of_succ_le_succ enough) _ (.append rest)

/-- The character of a code point, and what follows it. -/
def scalarEscape (flags : Flags) (byte : Bool) (found : Nat × List Char) :
    Option (Escape × List Char) := do
  let char ← scalar? found.1
  some (.char char byte, flags.skip found.2)

theorem agrees_scalarEscape (byte : Bool) (code : Nat) (followed : Followed text longer) :
    Agrees (scalarEscape flags byte (code, text)) (scalarEscape flags byte (code, longer)) :=
  .need _ fun _ => .read _ (followed.skip flags)

theorem agrees_readHex (digits : Nat) (byte : Bool) (followed : Followed text longer) :
    Agrees (readHex flags digits byte text) (readHex flags digits byte longer) := by
  rw [readHex, readHex]
  have skipped := followed.skip flags
  generalize flags.skip text = text, flags.skip longer = longer at skipped
  have plain : Agrees
      (readHexDigits flags digits 0 text >>= scalarEscape flags byte)
      (readHexDigits flags digits 0 longer >>= scalarEscape flags byte) :=
    (agrees_readHexDigits digits 0 skipped).bind fun code _ _ => agrees_scalarEscape byte code
  cases skipped with
  | taken | close => exact plain
  | cons char rest =>
      by_cases braced : char = '\x7b'
      · subst braced
        have enough : rest.length + 1 ≤ (rest ++ [')']).length + 1 := by simp
        exact (agrees_readHexBraced enough none (.append rest)).bind
          fun code _ _ => agrees_scalarEscape false code
      · simp only [List.cons.injEq, braced, false_and, forall_const, IsEmpty.forall_iff]
        exact plain

theorem agrees_readBraced {bound wide : Nat} (enough : bound ≤ wide) (held : List Char)
    (followed : Followed text longer) :
    Agrees (readBraced flags bound held text) (readBraced flags wide held longer) := by
  induction bound generalizing held text longer wide with
  | zero => exact .failed _
  | succ bound ih =>
      cases wide with
      | zero => contradiction
      | succ wide =>
          rw [readBraced, readBraced]
          have skipped := followed.skip flags
          generalize flags.skip text = text, flags.skip longer = longer at skipped
          cases skipped with
          | taken | close => exact .failed _
          | cons char rest =>
              by_cases ends : char = '\x7d'
              · subst ends
                exact .read _ (.append rest)
              · simp only
                exact ih (Nat.le_of_succ_le_succ enough) _ (.append rest)

theorem agrees_readProperty (negated : Bool) (followed : Followed text longer) :
    Agrees (readProperty flags negated text) (readProperty flags negated longer) := by
  have finish : ∀ (found : CharSet × Bool) {rest left : List Char}, Followed rest left →
      Agrees
        (if flags.unicode then do
          let set ← flags.negateIf? (negated != found.2) (flags.fold found.1)
          some (Escape.class set, rest)
        else none)
        (if flags.unicode then do
          let set ← flags.negateIf? (negated != found.2) (flags.fold found.1)
          some (Escape.class set, left)
        else none) :=
    fun found _ _ after => .ite (fun _ => .need _ fun set => .read _ after) fun _ => .failed _
  rw [readProperty, readProperty]
  have skipped := followed.skip flags
  generalize flags.skip text = text, flags.skip longer = longer at skipped
  cases skipped with
  | taken | close => exact .failed _
  | cons char rest =>
      by_cases braced : char = '\x7b'
      · subst braced
        have enough : rest.length + 1 ≤ (rest ++ [')']).length + 1 := by simp
        exact (agrees_readBraced enough [] (.append rest)).bind fun name _ _ after =>
          .need _ fun found => finish found after
      · simp only
        exact .need _ fun set => finish (set, false) ((Followed.append rest).skip flags)

theorem agrees_readEdgeName {bound wide : Nat} (enough : bound ≤ wide) (held : List Char)
    (followed : Followed text longer) :
    Agrees (readEdgeName flags bound held text) (readEdgeName flags wide held longer) := by
  induction bound generalizing held text longer wide with
  | zero => exact .failed _
  | succ bound ih =>
      cases wide with
      | zero => contradiction
      | succ wide =>
          cases followed with
          | taken | close => exact .failed _
          | cons char rest =>
              by_cases ends : char = '\x7d'
              · subst ends
                exact .read _ (.append rest)
              · simp only [readEdgeName]
                exact .ite (fun _ => ih (Nat.le_of_succ_le_succ enough) _
                  ((Followed.append rest).skip flags)) fun _ => .failed _

theorem readWordEdge_of_ne {char : Char} (other : char ≠ '\x7b') (rest : List Char) :
    readWordEdge flags (char :: rest) = some (.wordEdge !flags.unicode, char :: rest) := by
  rw [readWordEdge]
  rintro inside same
  exact other (List.cons.inj same).1

theorem agrees_readWordEdge (followed : Followed text longer) :
    Agrees (readWordEdge flags text) (readWordEdge flags longer) := by
  cases followed with
  | taken => exact .read _ .taken
  | close => exact .read _ .close
  | cons char rest =>
      by_cases braced : char = '\x7b'
      · subst braced
        simp only [readWordEdge]
        have skipped := (Followed.append rest).skip flags
        generalize flags.skip rest = inside, flags.skip (rest ++ [')']) = inside' at skipped
        cases skipped with
        | taken | close => exact .failed _
        | cons first inside =>
            have enough : inside.length + 2 ≤ (inside ++ [')']).length + 2 := by simp
            refine .ite (fun _ => ?_) fun _ => .read _ (.cons _ rest)
            refine (agrees_readEdgeName enough [] (.cons first inside)).bind
              fun name _ _ after => ?_
            dsimp only
            split
            case h_5 => exact .failed _
            all_goals exact .read _ after
      · rw [readWordEdge_of_ne braced, readWordEdge_of_ne braced]
        exact .read _ (.cons char rest)

theorem agrees_readEscape (followed : Followed text longer) :
    Agrees (readEscape flags text) (readEscape flags longer) := by
  cases followed with
  | taken | close => exact .failed _
  | cons letter rest =>
      have after := Followed.append rest
      rw [readEscape.eq_def, readEscape.eq_def]
      dsimp only
      split
      case h_1 | h_2 | h_3 => exact agrees_readHex _ _ after
      case h_4 | h_5 => exact agrees_readProperty _ after
      case h_6 | h_7 | h_8 | h_9 | h_10 | h_11 =>
        cases shorthandClass? flags _ with
        | none => exact .failed _
        | some set => exact .read _ after
      case h_20 => exact (agrees_readWordEdge after).map Escape.check
      case h_24 => exact .ite (fun _ => .read _ after) fun _ => .failed _
      all_goals exact .read _ after

/-! ## Sets in brackets -/

theorem readDashes_of_ne {char : Char} (other : char ≠ '-') (bound : Nat) (level : OpenSet)
    (rest : List Char) :
    readDashes flags (bound + 1) level (char :: rest) = (level, char :: rest) := by
  rw [readDashes]
  rintro inside same
  exact other (List.cons.inj same).1

/-- Dashes are read up to the first other character, for which there is always enough fuel. -/
theorem followed_readDashes (flags : Flags) {bound wide : Nat} (level : OpenSet)
    (enough : text.length ≤ bound) (more : bound ≤ wide) (followed : Followed text longer) :
    (readDashes flags bound level text).1 = (readDashes flags wide level longer).1 ∧
      Followed (readDashes flags bound level text).2 (readDashes flags wide level longer).2 := by
  induction bound generalizing level text longer wide with
  | zero =>
      obtain rfl := List.length_eq_zero_iff.mp (Nat.le_zero.mp enough)
      cases wide with
      | zero => exact ⟨rfl, followed⟩
      | succ wide =>
          cases followed with
          | taken => exact ⟨rfl, .taken⟩
          | close => exact ⟨rfl, .close⟩
  | succ bound ih =>
      cases wide with
      | zero => contradiction
      | succ wide =>
          cases followed with
          | taken => exact ⟨rfl, .taken⟩
          | close => exact ⟨rfl, .close⟩
          | cons char rest =>
              by_cases dash : char = '-'
              · subst dash
                refine ih _ ?_ (Nat.le_of_succ_le_succ more) ((Followed.append rest).skip flags)
                exact (flags.skip_length_le rest).trans (Nat.le_of_succ_le_succ enough)
              · rw [readDashes_of_ne dash, readDashes_of_ne dash]
                exact ⟨rfl, .cons char rest⟩

theorem agrees_nonEmpty {α : Type} {rest left : List Char} (value : α)
    (followed : Followed rest left) :
    Agrees (if rest.isEmpty then none else some (value, rest))
      (if left.isEmpty then none else some (value, left)) := by
  cases followed with
  | taken | close => exact .failed _
  | cons char rest => exact .read value (.cons char rest)

/-- The first members of a set after the mark of a complement, if that was there. -/
def readFirstMembers (flags : Flags) (negated : Bool) : List Char → Option (OpenSet × List Char)
  | [] => none
  | ']' :: rest =>
      let rest := flags.skip rest
      if rest.isEmpty then none
      else some ((OpenSet.start negated).add (CharSet.single ']') 0, rest)
  | text =>
      let (level, rest) := readDashes flags text.length (OpenSet.start negated) text
      if rest.isEmpty then none else some (level, rest)

theorem agrees_readFirstMembers (negated : Bool) (followed : Followed text longer) :
    Agrees (readFirstMembers flags negated text) (readFirstMembers flags negated longer) := by
  cases followed with
  | taken | close => exact .failed _
  | cons char rest =>
      by_cases closes : char = ']'
      · subst closes
        exact agrees_nonEmpty _ ((Followed.append rest).skip flags)
      · simp only [readFirstMembers, List.cons.injEq, closes, false_and, forall_const,
          IsEmpty.forall_iff]
        have more : (char :: rest).length ≤ (char :: (rest ++ [')'])).length := by simp
        obtain ⟨same, after⟩ :=
          followed_readDashes flags (OpenSet.start negated) le_rfl more (.cons char rest)
        rw [same]
        exact agrees_nonEmpty _ after

theorem agrees_readSetStart (followed : Followed text longer) :
    Agrees (readSetStart flags text) (readSetStart flags longer) := by
  rw [readSetStart, readSetStart]
  have skipped := followed.skip flags
  generalize flags.skip text = text, flags.skip longer = longer at skipped
  cases skipped with
  | taken | close => exact .failed _
  | cons char rest =>
      by_cases negated : char = '^'
      · subst negated
        exact agrees_readFirstMembers true ((Followed.append rest).skip flags)
      · simp only [List.cons.injEq, negated, false_and, forall_const, IsEmpty.forall_iff]
        exact agrees_readFirstMembers false (.cons char rest)

/-- The name of an ASCII class with its closing marks. -/
def readClassName (flags : Flags) (negated : Bool) (text : List Char) :
    Option (Option CharSet × List Char) :=
  match Text.splitFirst [':'] text with
  | some (name, ']' :: rest) =>
      (CharSet.namedAscii? (String.ofList name)).map fun set =>
        (flags.negateIf? negated (flags.fold set), rest)
  | _ => none

theorem readClassName_append (flags : Flags) (negated : Bool) (text : List Char) :
    readClassName flags negated (text ++ [')']) =
      (readClassName flags negated text).map fun found => (found.1, found.2 ++ [')']) := by
  rw [readClassName, readClassName, Text.splitFirst_append (by decide)]
  cases Text.splitFirst [':'] text with
  | none => rfl
  | some parts =>
      obtain ⟨name, after⟩ := parts
      cases after with
      | nil => rfl
      | cons char rest =>
          by_cases closes : char = ']'
          · subst closes
            simp [Function.comp_def]
          · simp [closes]

/-- Whether a bracket starts a named class does not depend on the parenthesis: the name ends at a
colon. -/
theorem readNamedClass_append (flags : Flags) (text : List Char) :
    readNamedClass flags (text ++ [')']) =
      (readNamedClass flags text).map fun found => (found.1, found.2 ++ [')']) := by
  cases text with
  | nil => rfl
  | cons char rest =>
      by_cases colon : char = ':'
      · subst colon
        cases rest with
        | nil => rfl
        | cons second rest =>
            by_cases negated : second = '^'
            · subst negated
              exact readClassName_append flags true rest
            · simp only [List.cons_append, readNamedClass, List.cons.injEq, negated, false_and,
                forall_const, IsEmpty.forall_iff]
              exact readClassName_append flags false (second :: rest)
      · simp [readNamedClass, colon]

theorem agrees_readSetMember (followed : Followed text longer) :
    Agrees (readSetMember flags text) (readSetMember flags longer) := by
  cases followed with
  | taken | close => exact .failed _
  | cons char rest =>
      by_cases escaped : char = '\\'
      · subst escaped
        exact agrees_readEscape (.append rest)
      · simp only [readSetMember]
        exact .read _ (.append rest)

theorem head?_eq_some_iff {char : Char} (other : char ≠ ')') (followed : Followed text longer) :
    longer.head? = some char ↔ text.head? = some char := by
  cases followed with
  | taken => rfl
  | close => simp [Ne.symm other]
  | cons first rest => rfl

theorem peek_eq_some_iff {char : Char} (other : char ≠ ')') (followed : Followed text longer) :
    flags.peek longer = some char ↔ flags.peek text = some char := by
  rw [Flags.peek, Flags.peek]
  split
  · have dropped := followed.dropWhile isBlank_close
    generalize text.dropWhile Unicode.isBlank = text, longer.dropWhile Unicode.isBlank = longer
      at dropped
    cases dropped with
    | taken => rfl
    | close => simp [Ne.symm other]
    | cons first rest =>
        by_cases comment : first = '#'
        · subst comment
          exact head?_eq_some_iff other ((Followed.append rest).dropWhile isBlank_close)
        · simp only [List.cons.injEq, comment, false_and, forall_const, IsEmpty.forall_iff]
          rfl
  · exact head?_eq_some_iff other followed

/-- A member of a set that does not begin a range, and what follows it. -/
def singleMember (flags : Flags) (member : Escape) (rest : List Char) :
    Option (CharSet × List Char) :=
  match member with
  | .char char byte => (flags.setChar? char byte).map fun char => (CharSet.single char, rest)
  | .class set => some (set, rest)
  | .check _ => none

theorem agrees_singleMember (flags : Flags) (member : Escape) (followed : Followed text longer) :
    Agrees (singleMember flags member text) (singleMember flags member longer) := by
  cases member with
  | char char byte =>
      rw [singleMember, singleMember]
      cases flags.setChar? char byte with
      | none => exact .failed _
      | some char => exact .read _ followed
  | «class» set => exact .read set followed
  | check assertion => exact .failed _

theorem agrees_readSetItem (followed : Followed text longer) :
    Agrees (readSetItem flags text) (readSetItem flags longer) := by
  rw [readSetItem, readSetItem]
  refine (agrees_readSetMember followed).bind fun first rest left after => ?_
  have skipped := after.skip flags
  dsimp only
  generalize flags.skip rest = text, flags.skip left = longer at skipped
  cases skipped with
  | taken | close => exact .failed _
  | cons char rest =>
      have single := agrees_singleMember flags first (.cons char rest)
      by_cases dash : char = '-'
      · subst dash
        have after := Followed.append rest
        have closes : flags.peek (rest ++ [')']) = some ']' ↔ flags.peek rest = some ']' :=
          peek_eq_some_iff (by decide) after
        have dashes : flags.peek (rest ++ [')']) = some '-' ↔ flags.peek rest = some '-' :=
          peek_eq_some_iff (by decide) after
        simp only [closes, dashes]
        refine .ite (fun _ => single) fun _ => ?_
        refine (agrees_readSetMember (after.skip flags)).bind fun last rest left after => ?_
        dsimp only
        split
        · exact .need _ fun low => .need _ fun high =>
            .ite (fun _ => .read _ after) fun _ => .failed _
        · exact .failed _
      · simp only [List.cons.injEq, dash, false_and, forall_const, IsEmpty.forall_iff]
        exact single

/-- The operator at the start of a text. -/
def readOperator : List Char → Option (SetOperator × List Char)
  | '&' :: '&' :: rest => some (.inter, rest)
  | '-' :: '-' :: rest => some (.minus, rest)
  | '~' :: '~' :: rest => some (.either, rest)
  | _ => none

theorem readOperator_append (text : List Char) :
    readOperator (text ++ [')']) =
      (readOperator text).map fun found => (found.1, found.2 ++ [')']) := by
  fun_cases readOperator text with
  | case1 | case2 | case3 => rfl
  | case4 text inter minus either =>
      cases text with
      | nil => rfl
      | cons first text =>
          cases text with
          | nil => simp [readOperator]
          | cons second text =>
              simp only [List.cons_append]
              rw [readOperator]
              · rfl
              all_goals
                rintro rest same
                simp_all

theorem readSet_succ (flags : Flags) (bound : Nat) (level : OpenSet) (outer : List OpenSet)
    (text : List Char) :
    readSet flags (bound + 1) level outer text =
      match flags.skip text with
      | [] => none
      | '[' :: rest =>
          match readNamedClass flags rest with
          | some (set, rest) => do
              let set ← set
              readSet flags bound (level.add set 0) outer rest
          | none => do
              let (inner, rest) ← readSetStart flags rest
              readSet flags bound inner (level :: outer) rest
      | ']' :: rest => do
          let (set, depth) ← level.close? flags
          match outer with
          | [] => some (set, depth, rest)
          | around :: outer => readSet flags bound (around.add set depth) outer rest
      | text =>
          match readOperator text with
          | some (mark, rest) => readSet flags bound (level.split flags mark) outer rest
          | none =>
              readSetItem flags text >>= fun (set, rest) =>
                readSet flags bound (level.add set 0) outer rest := by
  rw [readSet.eq_def]
  dsimp only
  generalize flags.skip text = text
  split
  case h_7 empty opens closes inter minus either =>
    have plain : readOperator text = none := by
      rw [readOperator]
      · exact inter
      · exact minus
      · exact either
    simp only [plain]
  all_goals rfl

theorem agrees_readSet {bound wide : Nat} (enough : bound ≤ wide) (level : OpenSet)
    (outer : List OpenSet) (followed : Followed text longer) :
    Agrees₂ (readSet flags bound level outer text) (readSet flags wide level outer longer) := by
  induction bound generalizing level outer text longer wide with
  | zero => exact .failed _
  | succ bound ih =>
      cases wide with
      | zero => contradiction
      | succ wide =>
          -- Every way on reads the rest of the set, at another level.
          have again : ∀ level outer {text longer : List Char}, Followed text longer →
              Agrees₂ (readSet flags bound level outer text)
                (readSet flags wide level outer longer) :=
            fun level outer => ih (Nat.le_of_succ_le_succ enough) level outer
          rw [readSet_succ, readSet_succ]
          have skipped := followed.skip flags
          generalize flags.skip text = text, flags.skip longer = longer at skipped
          cases skipped with
          | taken | close => exact .failed _
          | cons char rest =>
              have after := Followed.append rest
              by_cases opens : char = '['
              · subst opens
                simp only
                rw [readNamedClass_append]
                cases readNamedClass flags rest with
                | some found =>
                    obtain ⟨named, left⟩ := found
                    cases named with
                    | none => exact .failed _
                    | some set => exact again _ outer (.append left)
                | none =>
                    exact (agrees_readSetStart after).bind₂ fun inner _ _ => again inner _
              by_cases closes : char = ']'
              · subst closes
                dsimp only
                cases level.close? flags with
                | none => exact .failed _
                | some found =>
                    cases outer with
                    | nil => exact .read _ after
                    | cons around outer => exact again _ outer after
              simp only [List.cons.injEq, opens, closes, false_and, forall_const,
                IsEmpty.forall_iff]
              rw [← List.cons_append, readOperator_append]
              cases readOperator (char :: rest) with
              | some found => exact again _ outer (.append found.2)
              | none =>
                  exact (agrees_readSetItem (.cons char rest)).bind₂ fun set _ _ => again _ outer

/-! ## Groups and repetitions -/

theorem agrees_readFlags (changes : FlagChanges) (dash : Option Bool) (on : Bool)
    (text : List Char) :
    Agrees₂ (readFlags changes dash on text) (readFlags changes dash on (text ++ [')'])) := by
  induction text generalizing changes dash on with
  | nil =>
      -- The parenthesis would end the flags, but the text by itself has no end of them.
      exact .failed _
  | cons char rest ih =>
      have after := Followed.append rest
      by_cases opens : char = ':'
      · subst opens
        exact .ite₂ (fun _ => .failed _) fun _ => .read _ after
      by_cases ends : char = ')'
      · subst ends
        exact .ite₂ (fun _ => .failed _) fun _ => .read _ after
      by_cases minus : char = '-'
      · subst minus
        exact .ite₂ (fun _ => .failed _) fun _ => ih ..
      simp only [List.cons_append, readFlags]
      cases Flag.ofChar? char with
      | none => exact .failed _
      | some flag => exact .ite₂ (fun _ => .failed _) fun _ => ih ..

theorem agrees_readGroupName (held : List Char) (text : List Char) :
    Agrees (readGroupName held text) (readGroupName held (text ++ [')'])) := by
  induction text generalizing held with
  | nil => exact .failed _
  | cons char rest ih =>
      have after := Followed.append rest
      by_cases ends : char = '>'
      · subst ends
        exact .ite (fun _ => .failed _) fun _ => .read _ after
      · simp only [List.cons_append, readGroupName]
        exact .ite (fun _ => ih _) fun _ => .failed _

theorem agrees_readCountDigits {bound wide : Nat} (enough : bound ≤ wide) (value : Option Nat)
    (followed : Followed text longer) :
    Agrees (readCountDigits flags bound value text) (readCountDigits flags wide value longer) := by
  induction bound generalizing value text longer wide with
  | zero => exact .failed _
  | succ bound ih =>
      cases wide with
      | zero => contradiction
      | succ wide =>
          cases followed with
          | taken | close => exact .failed _
          | cons char rest =>
              rw [readCountDigits, readCountDigits]
              refine .ite (fun _ => ?_) fun _ => .leave value (.cons char rest)
              exact ih (Nat.le_of_succ_le_succ enough) _ ((Followed.append rest).skip flags)

theorem agrees_readCount (followed : Followed text longer) :
    Agrees (readCount flags text) (readCount flags longer) := by
  have dropped := followed.dropWhile isBlank_close
  rw [readCount, readCount]
  refine (agrees_readCountDigits (Nat.succ_le_succ dropped.length_le) none dropped).bind
    fun value _ _ after => .ite (fun _ => .read _ (after.dropBlanks flags)) fun _ => .failed _

theorem readLazyMark_of_ne {char : Char} (other : char ≠ '?') (rest : List Char) :
    readLazyMark flags (char :: rest) = (!flags.swapGreed, char :: rest) := by
  rw [readLazyMark]
  rintro inside same
  exact other (List.cons.inj same).1

theorem followed_readLazyMark (flags : Flags) (followed : Followed text longer) :
    (readLazyMark flags text).1 = (readLazyMark flags longer).1 ∧
      Followed (readLazyMark flags text).2 (readLazyMark flags longer).2 := by
  cases followed with
  | taken => exact ⟨rfl, .taken⟩
  | close => exact ⟨rfl, .close⟩
  | cons char rest =>
      by_cases mark : char = '?'
      · subst mark
        exact ⟨rfl, .append rest⟩
      · rw [readLazyMark_of_ne mark, readLazyMark_of_ne mark]
        exact ⟨rfl, .cons char rest⟩

/-- A token that ends with the mark that turns its greed. -/
theorem agrees_marked (make : Bool → Token) (followed : Followed text longer) :
    Agrees (some (make (readLazyMark flags text).1, (readLazyMark flags text).2))
      (some (make (readLazyMark flags longer).1, (readLazyMark flags longer).2)) := by
  obtain ⟨same, after⟩ := followed_readLazyMark flags followed
  rw [same]
  exact .read _ after

theorem agrees_readBraceEnd (least : Nat) (most : Option Nat) (followed : Followed text longer) :
    Agrees (readBraceEnd flags least most text) (readBraceEnd flags least most longer) := by
  cases followed with
  | taken | close => exact .failed _
  | cons char rest =>
      by_cases ends : char = '\x7d'
      · subst ends
        exact .ite (fun _ => .failed _) fun _ =>
          agrees_marked (.repeated least most) ((Followed.append rest).skip flags)
      · simp only [readBraceEnd, List.cons.injEq, ends, false_and, forall_const,
          IsEmpty.forall_iff]
        exact .failed _

theorem agrees_readBraces (followed : Followed text longer) :
    Agrees (readBraces flags text) (readBraces flags longer) := by
  rw [readBraces, readBraces]
  refine (agrees_readCount (followed.skip flags)).bind fun least rest left after => ?_
  cases after with
  | taken | close => exact .failed _
  | cons char rest =>
      by_cases comma : char = ','
      · subst comma
        have skipped := (Followed.append rest).skip flags
        simp only
        generalize flags.skip rest = text, flags.skip (rest ++ [')']) = longer at skipped
        have counted : Agrees
            (readCount flags text >>= fun found =>
              readBraceEnd flags least (some found.1) found.2)
            (readCount flags longer >>= fun found =>
              readBraceEnd flags least (some found.1) found.2) :=
          (agrees_readCount skipped).bind fun most _ _ => agrees_readBraceEnd least (some most)
        cases skipped with
        | taken | close => exact counted
        | cons char rest =>
            by_cases ends : char = '\x7d'
            · subst ends
              exact agrees_readBraceEnd least none (.cons _ rest)
            · simp only [List.cons.injEq, ends, false_and, forall_const, IsEmpty.forall_iff]
              exact counted
      · simp only [List.cons.injEq, comma, false_and, forall_const, IsEmpty.forall_iff]
        exact agrees_readBraceEnd least (some least) (.cons char rest)

/-- Flags with the mark that ends them, after the question mark of a group. -/
def flagsToken : FlagChanges × Bool × List Char → Option (Token × List Char)
  | (changes, opens, rest) =>
      if opens then some (.group changes, rest)
      else if changes.isEmpty then none
      else some (.flags changes, rest)

theorem agrees_flagsToken (text : List Char) :
    Agrees (readFlags [] none true text >>= flagsToken)
      (readFlags [] none true (text ++ [')']) >>= flagsToken) := by
  refine (agrees_readFlags [] none true text).bind fun changes opens _ _ after => ?_
  exact .ite (fun _ => .read _ after) fun _ => .ite (fun _ => .failed _) fun _ => .read _ after

theorem agrees_captureToken (text : List Char) :
    Agrees ((readGroupName [] text).map fun found => (Token.capture (some found.1), found.2))
      ((readGroupName [] (text ++ [')'])).map fun found =>
        (Token.capture (some found.1), found.2)) :=
  (agrees_readGroupName [] text).map fun name => Token.capture (some name)

theorem agrees_readGroup (followed : Followed text longer) :
    Agrees (readGroup flags text) (readGroup flags longer) := by
  rw [readGroup.eq_def, readGroup.eq_def]
  have skipped := followed.skip flags
  generalize flags.skip text = text, flags.skip longer = longer at skipped
  cases skipped with
  | taken => exact .read _ .taken
  | close => exact .read _ .close
  | cons char rest =>
      by_cases mark : char = '?'
      · subst mark
        -- Only marks that are in the text by itself tell groups apart: where it ends, the group
        -- has no end, and there is nothing to show.
        cases rest with
        | nil => exact .failed _
        | cons second rest =>
            by_cases name : second = '<'
            · subst name
              cases rest with
              | nil => exact .failed _
              | cons third rest =>
                  by_cases behind : third = '=' ∨ third = '!'
                  · obtain rfl | rfl := behind
                    · exact .failed _
                    · exact .failed _
                  · rw [not_or] at behind
                    simp only [List.cons_append, List.cons.injEq, behind, false_and, forall_const,
                      IsEmpty.forall_iff]
                    exact agrees_captureToken (third :: rest)
            by_cases ahead : second = '=' ∨ second = '!'
            · obtain rfl | rfl := ahead
              · exact .failed _
              · exact .failed _
            rw [not_or] at ahead
            by_cases named : second = 'P'
            · subst named
              cases rest with
              | nil => exact .failed _
              | cons third rest =>
                  by_cases name : third = '<'
                  · subst name
                    exact agrees_captureToken rest
                  · simp only [List.cons_append, List.cons.injEq, name, Char.reduceEq, false_and,
                      and_false, forall_const, IsEmpty.forall_iff]
                    exact agrees_flagsToken ('P' :: third :: rest)
            · simp only [List.cons_append, List.cons.injEq, name, ahead, named, false_and,
                forall_const, IsEmpty.forall_iff]
              exact agrees_flagsToken (second :: rest)
      · simp only [List.cons.injEq, mark, false_and, forall_const, IsEmpty.forall_iff]
        exact .read _ (.cons char rest)

/-! ## Tokens -/

/-- The token of what a backslash stands for, with the text after it. -/
def escapeToken (flags : Flags) (escape : Escape) (rest : List Char) :
    Option (Token × List Char) :=
  match escape with
  | .char char byte => if flags.allows char byte then some (flags.literal char, rest) else none
  | .class set => some (.one set 0, rest)
  | .check assertion => some (.check assertion, rest)

theorem agrees_escapeToken (escape : Escape) (followed : Followed text longer) :
    Agrees (escapeToken flags escape text) (escapeToken flags escape longer) := by
  cases escape with
  | char char byte => exact .ite (fun _ => .read _ followed) fun _ => .failed _
  | «class» set => exact .read _ followed
  | check assertion => exact .read _ followed

/-- The characters that do not stand for themselves. -/
def operators : List Char :=
  ['(', ')', '|', '[', '?', '*', '+', '\x7b', '\\', '.', '^', '$']

theorem readToken_literal {char : Char} (plain : char ∉ operators) (rest : List Char) :
    readToken flags (char :: rest) = some (flags.literal char, rest) := by
  rw [readToken]
  all_goals
    rintro rfl
    exact plain (by decide)

theorem agrees_readToken (followed : Followed text longer) :
    Agrees (readToken flags text) (readToken flags longer) := by
  cases followed with
  | taken | close => exact .failed _
  | cons char rest =>
      have after := Followed.append rest
      by_cases plain : char ∉ operators
      · rw [readToken_literal plain, readToken_literal plain]
        exact .read _ after
      rw [not_not, operators] at plain
      simp only [List.mem_cons, List.not_mem_nil, or_false] at plain
      obtain rfl | rfl | rfl | rfl | rfl | rfl | rfl | rfl | rfl | rfl | rfl | rfl := plain
      · exact agrees_readGroup after
      · exact .read _ after
      · exact .read _ after
      · refine (agrees_readSetStart after).bind fun level text longer after => ?_
        refine (agrees_readSet (Nat.succ_le_succ after.length_le) level [] after).bind ?_
        exact fun set depth _ _ after => .read _ after
      · exact agrees_marked (.repeated 0 (some 1)) after
      · exact agrees_marked (.repeated 0 none) after
      · exact agrees_marked (.repeated 1 none) after
      · exact agrees_readBraces after
      · exact (agrees_readEscape after).bind fun escape _ _ => agrees_escapeToken escape
      · simp only [readToken]
        cases flags.dot? with
        | none => exact .failed _
        | some set => exact .read _ after
      · exact .read _ after
      · exact .read _ after

end Readers
end Regex
end BucketCatalog
