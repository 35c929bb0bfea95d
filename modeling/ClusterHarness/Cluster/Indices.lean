import ClusterHarness.Http.Client

/-!
Indices of the cluster: listing them, deleting them, and wiping all but the protected one.
-/

namespace ClusterHarness

open Http

namespace Indices

variable {σ : Type}

def securityIndex : Text := ".opendistro_security"

/-- Indices that are never deleted. -/
def protectedNames : List Text := [securityIndex]

/-- Lists all indices, the hidden ones too. -/
def listRequest : Request :=
  { Request.bare "GET" "_cat/indices" with
    params := some (.obj [("format", .str "json"), ("expand_wildcards", .str "all")]) }

theorem listRequest_consists : Client.Consists listRequest "GET" "_cat/indices"
    (some (.obj [("format", .str "json"), ("expand_wildcards", .str "all")])) .none := ⟨rfl, rfl, rfl⟩

def deleteRequest (name : Text) : Request := .bare "DELETE" name

theorem deleteRequest_consists (name : Text) :
    Client.Consists (deleteRequest name) "DELETE" (Client.path name) none .none := ⟨rfl, rfl, rfl⟩

def list (c : Client σ) : Action σ IndexListing := do
  let v ← c.json listRequest none
  .lift ((IndexListing.ofResponse v).mapError Failure.ofListing)

def delete (c : Client σ) (name : Text) : Action σ Unit := do
  let _ ← c.json (deleteRequest name) none

def deleteAll (c : Client σ) : List Text → Action σ Unit
  | [] => return ()
  | name :: names => do
    delete c name
    deleteAll c names

/-- The names to delete of those listed. -/
def deletable (names : List Text) : List Text := names.filter (!protectedNames.elem ·)

/-- Deletes every listed index but the protected one, in order, and answers with the names. -/
def wipe (c : Client σ) : Action σ (List Text) := do
  let listing ← list c
  let names := deletable listing.names
  deleteAll c names
  return names

/-- Whether an index is there, told from the status alone. -/
def isThere (c : Client σ) (name : Text) : Action σ Bool := do
  let status ← c.status (.bare "HEAD" name)
  if status = 200 then return true
  else if status = 404 then return false
  else .fail (.http (.ofText (some status) ("Unexpected status checking index " ++ name)))

end Indices

end ClusterHarness
