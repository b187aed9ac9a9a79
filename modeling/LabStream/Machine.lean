import LabStream.DockerDaemon
import LabStream.EventStream
import LabStream.Kernel
import LabStream.Part
import LabStream.TcBackend

namespace LabStream

/-- A computer with a Docker daemon and a kernel whose answers are prepared. -/
structure Machine where
  docker : DockerSession DockerDaemon
  kernel : TcWorld Kernel
  /-- The events written and not read yet, oldest first. -/
  written : List Event

namespace Machine

def start (daemon : DockerDaemon) (kernel : Kernel) : Machine := ⟨⟨daemon, .empty⟩, ⟨kernel, []⟩, []⟩

def dockerPart : Part Machine (DockerSession DockerDaemon) where
  get := docker
  set docker m := { m with docker }

def tcPart : Part Machine (TcWorld Kernel) where
  get := kernel
  set kernel m := { m with kernel }

def kernelPart : Part Machine Kernel where
  get m := m.kernel.world
  set world m := { m with kernel.world := world }

def setup (s : Settings) (architecture : String) (services : ServiceNames) : StreamSetup Machine TcTable where
  options := s.options
  runtime := DockerDaemon.socket.runtime.within dockerPart
  monitor := Kernel.monitor.within kernelPart
  backend := some ((Kernel.tcHost.backend ⟨s.trafficPaths, architecture⟩).within tcPart)
  services
  writer :=
    { put _ event m := { m with written := m.written ++ [event] }
      written := written }

/-- More of the feed comes, or its end. -/
def hear (input : FeedInput) : Machine → Machine :=
  dockerPart.change fun session =>
    let feed := session.world.feed
    { session with world.feed := ⟨feed.text ++ input.text, feed.ended || input.ended⟩ }

def notify (notices : List LinkNotice) : Machine → Machine := kernelPart.change (·.multicast notices)

end Machine

end LabStream
