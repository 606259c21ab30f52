import BlockStorage.Backend

/-!
The methods of a cloud held in memory. Requests of one method share a name, a latency and trouble,
whatever they are about.

Statement: no two methods have one name (`ofName?_name`).
-/
namespace BlockStorage.Sandbox

/-- What can be asked for. -/
inductive Method where
  | connect
  | create
  | readReceipt
  | attach
  | detach
  | destroy
  | listDrives
  | listHosts
  | describeHosts
  | createTags
  | describeTags
  | close
  deriving DecidableEq, Repr

namespace Method

def name : Method → String
  | connect => "connect"
  | create => "create_volume"
  | readReceipt => "_to_volume"
  | attach => "attach_volume"
  | detach => "detach_volume"
  | destroy => "destroy_volume"
  | listDrives => "list_volumes"
  | listHosts => "list_nodes"
  | describeHosts => "list_nodes_by_id"
  | createTags => "ex_create_tags"
  | describeTags => "ex_describe_tags"
  | close => "close"

def all : List Method :=
  [connect, create, readReceipt, attach, detach, destroy, listDrives, listHosts, describeHosts,
    createTags, describeTags, close]

/-- The method of a name. -/
def ofName? (s : String) : Option Method := all.find? fun m => m.name = s

theorem ofName?_name (m : Method) : ofName? m.name = some m := by
  cases m <;> decide

/-- The method of a request. -/
def ofRequest : Request → Method
  | .listInstances => listHosts
  | .describeInstances _ => describeHosts
  | .listDisks | .describeDisks _ => listDrives
  | .create .. | .submitCreate .. => create
  | .readReceipt _ => readReceipt
  | .attach .. => attach
  | .detach _ | .submitDetach .. => detach
  | .destroy _ => destroy
  | .createTags .. => createTags
  | .describeTags _ => describeTags
  | .close => close

end Method

end BlockStorage.Sandbox
