/-! # Errors of the feed protocol

Clients are told of a failure by a number and a description. The kinds named here have numbers of
their own; any kind may carry another number.
-/
namespace TrackerHub

/-- The kinds of failure that the protocol names. -/
inductive ApiFault where
  | general
  | incorrectCredentials
  | missingParameter
  | incorrectParameter
  | noSuchFunction
  | functionNotAvailable
  | noSuchItem
  | apiDisabled
  deriving Repr, DecidableEq, Inhabited

def ApiFault.code : ApiFault → Int
  | .general => 900
  | .incorrectCredentials => 100
  | .missingParameter => 200
  | .incorrectParameter => 201
  | .noSuchFunction => 202
  | .functionNotAvailable => 203
  | .noSuchItem => 300
  | .apiDisabled => 910

def standardDescriptions : List (Int × String) := [
  (100, "Incorrect user credentials"),
  (101, "Account suspended"),
  (102, "Insufficient privileges/not authorized"),
  (103, "Registration denied"),
  (104, "Registrations are closed"),
  (105, "Invalid registration (Email Address Taken)"),
  (106, "Invalid registration (Email Address Bad Format)"),
  (107, "Registration Failed (Data error)"),
  (200, "Missing parameter"),
  (201, "Incorrect parameter"),
  (202, "No such function. (Function not defined in this specification)."),
  (203, "Function not available. (Optional function is not implemented)."),
  (300, "No such item."),
  (900, "Unknown error"),
  (910, "API Disabled")]

/-- The description of a number; unknown numbers are unknown errors. -/
def standardDescription (code : Int) : String :=
  match standardDescriptions.find? fun d => d.1 == code with
  | some d => d.2
  | none => "Unknown error"

structure ApiError where
  fault : ApiFault
  code : Int
  description : String
  deriving Repr, DecidableEq, Inhabited

/-- A failure of the given kind. Without a description, or with an empty one, it takes the one that
goes with its number. -/
def ApiError.of (fault : ApiFault) (description : String := "") (code : Option Int := none) :
    ApiError :=
  let number := code.getD fault.code
  ⟨fault, number, if description.isEmpty then standardDescription number else description⟩

/-- What is raised: a failure of the protocol, or one that nobody foresaw with its text. -/
inductive Raised where
  | protocol (e : ApiError)
  | unforeseen (text : String)
  deriving Repr, DecidableEq, Inhabited

def Raised.told : Raised → ApiError
  | protocol e => e
  | unforeseen text => ApiError.of .general text

end TrackerHub
