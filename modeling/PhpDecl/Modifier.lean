import PhpDecl.Tree.Error

/-!
# Declaration modifiers

* `Modifier`, `Modifier.all`, `Modifier.keyword`: the seven modifiers, in the order they are
  written;
* `Modifier.ofKeyword?`, `Modifier.parse`: the modifier a keyword stands for;
* `Modifiers`: a set of modifiers as a word of eight bits, of which the highest names none;
* `Modifiers.has`, `Modifiers.insert`, `Modifiers.ofList`, `Modifiers.text`.
-/

namespace PhpDecl

/-- A modifier of a declaration. -/
inductive Modifier where
  | visPublic | visProtected | visPrivate | static | abstract | final | readonly
  deriving DecidableEq, Repr

namespace Modifier

/-- The modifiers in the order they are written. -/
def all : List Modifier :=
  [.visPublic, .visProtected, .visPrivate, .static, .abstract, .final, .readonly]

/-- The word a modifier is written with. -/
def keyword : Modifier → String
  | .visPublic => "public"
  | .visProtected => "protected"
  | .visPrivate => "private"
  | .static => "static"
  | .abstract => "abstract"
  | .final => "final"
  | .readonly => "readonly"

/-- The bit of a modifier in a set. -/
def bit : Modifier → UInt8
  | .visPublic => 1
  | .visProtected => 2
  | .visPrivate => 4
  | .static => 8
  | .abstract => 16
  | .final => 32
  | .readonly => 64

/-- The modifier that a keyword stands for. -/
def ofKeyword? (word : String) : Option Modifier := all.find? fun m => m.keyword == word

/-- The modifier that a word stands for, or what is wrong with the word. -/
def parse (word : String) : Except TreeError Modifier :=
  match ofKeyword? word with
  | some m => .ok m
  | none => .error (.unknownModifier word)

@[simp] theorem ofKeyword?_keyword (m : Modifier) : ofKeyword? m.keyword = some m := by
  cases m <;> decide

@[simp] theorem parse_keyword (m : Modifier) : parse m.keyword = .ok m := by
  rw [parse, ofKeyword?_keyword]

/-- A modifier is parsed from its keyword only. -/
theorem keyword_of_parse {word : String} {m : Modifier} (h : parse word = .ok m) :
    m.keyword = word := by
  unfold parse at h
  cases hw : ofKeyword? word with
  | none => rw [hw] at h; cases h
  | some n =>
    rw [hw] at h
    cases h
    simpa using List.find?_some hw

theorem toBool_parse (word : String) :
    (parse word).toBool = all.any fun m => m.keyword == word := by
  rw [← List.isSome_find?, parse]
  change _ = (ofKeyword? word).isSome
  cases ofKeyword? word <;> rfl

theorem keyword_injective {m n : Modifier} (h : m.keyword = n.keyword) : m = n := by
  have hm := ofKeyword?_keyword m
  rw [h, ofKeyword?_keyword] at hm
  exact (Option.some.inj hm).symm

end Modifier

/-- A set of modifiers. -/
structure Modifiers where
  bits : UInt8
  deriving DecidableEq, Repr

namespace Modifiers

/-- No modifier. -/
def empty : Modifiers := ⟨0⟩

instance : Inhabited Modifiers := ⟨empty⟩

/-- The set holds the modifier. -/
def has (s : Modifiers) (m : Modifier) : Bool := s.bits &&& m.bit != 0

/-- The set with one more modifier. -/
def insert (s : Modifiers) (m : Modifier) : Modifiers := ⟨s.bits ||| m.bit⟩

/-- Distinct modifiers have distinct bits. -/
theorem bit_and_bit (m n : Modifier) : (m.bit &&& n.bit != 0) = (m == n) := by
  cases m <;> cases n <;> decide

@[simp] theorem has_empty (m : Modifier) : empty.has m = false := by cases m <;> decide

@[simp] theorem has_insert (s : Modifiers) (m n : Modifier) :
    (s.insert m).has n = (s.has n || m == n) := by
  have h : (s.bits ||| m.bit) &&& n.bit = s.bits &&& n.bit ||| m.bit &&& n.bit :=
    UInt8.toBitVec_inj.mp BitVec.and_or_distrib_right
  rw [has, has, insert, h, ← bit_and_bit m n, Bool.eq_iff_iff]
  simp only [bne_iff_ne, ne_eq, UInt8.or_eq_zero_iff, Bool.or_eq_true]
  exact Decidable.not_and_iff_or_not

/-- The set of the listed modifiers. -/
def ofList (ms : List Modifier) : Modifiers := ms.foldl insert empty

/-- The modifiers of the set in the order they are written. -/
def toList (s : Modifiers) : List Modifier := Modifier.all.filter s.has

/-- The keywords of the set, each followed by a space. -/
def text (s : Modifiers) : String := String.join (s.toList.map fun m => m.keyword ++ " ")

end Modifiers

end PhpDecl
