/-!
# Cancellation tokens

A group issues one token after the other and cancels the token that it issued
last.  Issuing a token cancels the one before, so that at most one token of a
group is not cancelled.  A cancelled token keeps its first reason.
-/

namespace AgentPipeline

/-- The reason of a cancellation by the user. -/
def cancelledByUser : String := "cancelled by user"

/-- The reason of a token that was replaced by a newer one. -/
def superseded : String := "superseded by a newer operation"

/-- A token, by the number of tokens its group had issued before it. -/
structure TokenId where
  serial : Nat
deriving DecidableEq, Inhabited, Repr

/-- The tokens that share what is current, with the newest first; a token that
is cancelled has a reason. -/
structure CancelGroup where
  reasons : List (Option String)
deriving DecidableEq, Inhabited, Repr

namespace CancelGroup

/-- The group that has issued no token. -/
def new : CancelGroup := ⟨[]⟩

/-- The token issued last. -/
def current? (group : CancelGroup) : Option TokenId :=
  match group.reasons with
  | [] => none
  | _ :: older => some ⟨older.length⟩

def hasIssued (group : CancelGroup) (token : TokenId) : Bool :=
  token.serial < group.reasons.length

/-- Why a token was cancelled, if it was. -/
def reason? (group : CancelGroup) (token : TokenId) : Option String :=
  (group.reasons.reverse[token.serial]?).join

def isCancelled (group : CancelGroup) (token : TokenId) : Bool :=
  (group.reason? token).isSome

/-- Whether there is a current token that is not cancelled. -/
def isOpen (group : CancelGroup) : Bool :=
  match group.reasons with
  | none :: _ => true
  | _ => false

/-- The current token, if it is not cancelled. -/
def open? (group : CancelGroup) : Option TokenId :=
  if group.isOpen then group.current? else none

/-- Cancels the current token unless it is cancelled already. -/
def cancel (reason : String) (group : CancelGroup) : CancelGroup :=
  match group.reasons with
  | none :: older => ⟨some reason :: older⟩
  | _ => group

/-- Issues a token and cancels the one before. -/
def issue (group : CancelGroup) : CancelGroup × TokenId :=
  (⟨none :: (group.cancel superseded).reasons⟩, ⟨group.reasons.length⟩)

/-- The current token, if it is cancelled, with its reason. -/
def pending? (group : CancelGroup) : Option String :=
  match group.reasons with
  | some reason :: _ => some reason
  | _ => none

end CancelGroup

end AgentPipeline
