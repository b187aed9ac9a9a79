namespace LabStream

/-- A cancellation token, named by the path from its root: the path of a child extends that of its
parent. -/
abbrev Token := List Nat

abbrev Cancellations := List Token

/-- A token is cancelled with itself or with any token above it. -/
def Cancellations.covers (cancelled : Cancellations) (token : Token) : Bool :=
  cancelled.any fun above => above.isPrefixOf token

def Cancellations.cancel (cancelled : Cancellations) (token : Token) : Cancellations :=
  token :: cancelled

end LabStream
