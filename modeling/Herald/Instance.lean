import Herald.Id

/-!
# Installed trackers
-/

namespace Herald

inductive InstanceKind where
  | cloud
  | server
  deriving DecidableEq, Repr

namespace InstanceKind

def name : InstanceKind → String
  | .cloud => "cloud"
  | .server => "server"

def ofName? (name : String) : Option InstanceKind :=
  [InstanceKind.cloud, .server].find? (·.name == name)

theorem ofName?_name (k : InstanceKind) : ofName? k.name = some k := by
  cases k <;> decide

end InstanceKind

/-- A tracker that webhooks come from. -/
structure Instance where
  id : InstanceId
  baseUrl : String
  kind : InstanceKind
  deriving DecidableEq, Repr

namespace Instance

/-- The instance with the slashes at the end of its base URL removed. -/
def normalized (i : Instance) : Instance :=
  { i with baseUrl := Text.withoutTrailingSlashes i.baseUrl }

/-- The page of an issue. -/
def browseUrl (i : Instance) (key : IssueKey) : String :=
  i.baseUrl ++ "/browse/" ++ key.text

end Instance

end Herald
