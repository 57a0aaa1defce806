/-!
The kinds of barrier set. Every barrier set carries the kinds it can be viewed as in its tag set;
the kinds form a hierarchy, from the root that only tracks reference modification down to the two
specialised card tables.
-/

namespace WriteBarrier

/-- One value for each kind of barrier set, in the order in which kinds are listed. -/
inductive Kind where
  /-- Tracks reference modification and keeps no further state. -/
  | modRef
  /-- A card-marking post-write barrier. -/
  | cardTable
  /-- A card table used as the remembered set of a generational heap. -/
  | rememberedSet
  /-- A remembered set with extensions. -/
  | extendedSet
  /-- A snapshot-at-the-beginning pre-write barrier over a card table. -/
  | snapshot
  /-- A snapshot card table that also logs dirtied cards. -/
  | loggingSnapshot
  deriving DecidableEq, Inhabited

namespace Kind

def all : List Kind :=
  [.modRef, .cardTable, .rememberedSet, .extendedSet, .snapshot, .loggingSnapshot]

/-- The name under which a kind is printed and looked up. -/
def name : Kind → String
  | .modRef => "ModRef"
  | .cardTable => "CardTableModRef"
  | .rememberedSet => "CardTableForRS"
  | .extendedSet => "CardTableExtension"
  | .snapshot => "G1SATBCT"
  | .loggingSnapshot => "G1SATBCTLogging"

def ofName? (s : String) : Option Kind := all.find? (·.name == s)

/-- The position of a kind in the list of all kinds. -/
def index : Kind → Fin 6
  | .modRef => 0
  | .cardTable => 1
  | .rememberedSet => 2
  | .extendedSet => 3
  | .snapshot => 4
  | .loggingSnapshot => 5

def ofIndex : Fin 6 → Kind
  | 0 => .modRef
  | 1 => .cardTable
  | 2 => .rememberedSet
  | 3 => .extendedSet
  | 4 => .snapshot
  | 5 => .loggingSnapshot

theorem ofIndex_index (k : Kind) : ofIndex k.index = k := by cases k <;> rfl

theorem index_ofIndex (i : Fin 6) : (ofIndex i).index = i := by
  revert i; decide

theorem ofName?_name (k : Kind) : ofName? k.name = some k := by cases k <;> rfl

end Kind

/-- Why a text is not the name of a kind: there is only one reason. -/
inductive KindError where
  | unmatched

namespace KindError

/-- The sentence shown to a user. -/
def message : KindError → String
  | .unmatched => "Matching variant not found"

/-- The short form used in diagnostics. -/
def describe : KindError → String
  | .unmatched => "VariantNotFound"

end KindError

def Kind.parse (s : String) : Except KindError Kind :=
  match ofName? s with
  | some k => .ok k
  | none => .error .unmatched

end WriteBarrier
