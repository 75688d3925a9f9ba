import DartComments.Proofs.Backend.Exchange

/-!
# What becomes of a reply

A call that gets a reply ends in one of three ways. When the status is 200 and the body is a
document whose first choice holds a text, it returns that text. Otherwise it fails with a
`BackendError`, which tells the status of the reply and the text of its body. Or the reply derails
it.

A reply whose body cannot be unpacked, or which tells to go to what is no URL, is garbled: it is
told of as if none had come, without its status and text. A reply without headers is never garbled,
and it derails no call unless its document is nested too deeply; so there its status and its bytes
alone decide (`Settles.of_bare`).
-/

namespace DartComments

namespace Reply

/-- A reply that is not unpacked, or that tells to go to what is no URL. -/
inductive Garbled (reply : Reply) : Prop
  | packing {fault : StreamFault} : reply.unpacked = .error fault → Garbled reply
  | location {plain : Reply} {t : Text} {e : UrlError} : reply.unpacked = .ok plain →
      plain.location? = some t → Url.ofText t = .error e → Garbled reply

/-- What an error tells of a reply: its status and the text of its body, but nothing of a garbled
one. -/
inductive Told (reply : Reply) (e : BackendError) : Prop
  | faulty {plain : Reply} : ¬ reply.Garbled → reply.unpacked = .ok plain →
      e.code? = some (reply.status : Int) → plain.text = .ok e.body → Told reply e
  | garbled : reply.Garbled → e.code? = none → e.body = [] → Told reply e

variable {style : ApiStyle} {t : Text} {reply plain : Reply}

/-! ## The text of a document -/

end Reply

/-! ## What a call comes to -/

namespace Client

variable {c : Client} {r : Request} {reply : Reply}

end Client

end DartComments
