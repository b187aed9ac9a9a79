import LabStream.DockerRuntime

namespace LabStream

structure DockerDaemon where
  containers : Json
  inspections : List (String × Json)
  /-- The reply to every listing in place of the containers. -/
  listReply : Option DockerReply
  /-- The reply to a subscription in place of the feed. -/
  eventsReply : Option DockerReply
  /-- What has come on the feed. -/
  feed : FeedInput
  requests : List DockerRequest

namespace DockerDaemon

def inspectReply (daemon : DockerDaemon) (request : DockerRequest) : DockerReply :=
  match daemon.inspections.find? fun (id, _) => request = .inspect id with
  | some (_, value) => ⟨200, value.render⟩
  | none =>
    let id := (request.path.toList.drop "/containers/".length).dropLast.dropLast.dropLast.dropLast.dropLast
    ⟨404, (Json.record [("message", .text ("No such container: " ++ String.ofList id))]).render⟩

def replyTo (daemon : DockerDaemon) (request : DockerRequest) : DockerReply :=
  if request.path = "/containers/json" then daemon.listReply.getD ⟨200, daemon.containers.render⟩
  else if request.path = "/events" then daemon.eventsReply.getD ⟨200, ""⟩
  else daemon.inspectReply request

/-- The way to the daemon. A reply that replaces the feed ends it too. -/
def socket : DockerSocket DockerDaemon where
  ask request daemon := ({ daemon with requests := daemon.requests ++ [request] }, daemon.replyTo request)
  readFeed daemon :=
    if daemon.eventsReply.isSome then (daemon, ⟨"", true⟩)
    else ({ daemon with feed := { daemon.feed with text := "" } }, daemon.feed)

end DockerDaemon

end LabStream
