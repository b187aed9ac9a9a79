import LabStream.Call
import LabStream.Container
import LabStream.Link
import LabStream.Tally
import LabStream.TrafficFault
import LabStream.TrafficScope

namespace LabStream

/-- The means of counting traffic over a world of type `σ`. What is loaded for a scope is known by a
table of type `τ`. -/
structure TrafficBackend (σ τ : Type) where
  prepare : σ → σ × Except TrafficFault Unit
  discover : List Container → σ → σ × Except TrafficFault (List TrafficScope)
  load : TrafficScope → σ → σ × Except TrafficFault τ
  links : τ → σ → σ × Except TrafficFault (List Link)
  attach : τ → String → σ → σ × Except TrafficFault Unit
  detach : τ → String → σ → σ
  read : τ → σ → σ × Except TrafficFault Tally
  /-- How long it takes until a table is closed. -/
  closeDelay : τ → σ → Span
  close : τ → σ → σ
  finish : σ → σ

end LabStream
