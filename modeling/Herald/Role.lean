/-!
# Notification roles

Why a person is sent a direct message. The order of the roles is the order of
their settings, and it decides under which one a person is told who qualifies
under several.
-/

namespace Herald

inductive Role where
  | assignee
  | mention
  | reporter
  | watching
  deriving DecidableEq, Repr

namespace Role

def all : List Role := [.assignee, .mention, .reporter, .watching]

def name : Role → String
  | .assignee => "assignee"
  | .mention => "mention"
  | .reporter => "reporter"
  | .watching => "watching"

def ofName? (name : String) : Option Role :=
  all.find? (·.name == name)

/-- The position of a role in `all`. -/
def rank : Role → Nat
  | .assignee => 0
  | .mention => 1
  | .reporter => 2
  | .watching => 3

instance : Ord Role := ⟨compareOn rank⟩

instance : Std.TransOrd Role := inferInstanceAs (Std.TransCmp (compareOn rank))

instance : Std.LawfulEqOrd Role where
  eq_of_compare {a b} h := by revert h; cases a <;> cases b <;> decide

theorem mem_all (r : Role) : r ∈ all := by
  cases r <;> decide

theorem ofName?_name (r : Role) : ofName? r.name = some r := by
  cases r <;> decide

end Role

end Herald
