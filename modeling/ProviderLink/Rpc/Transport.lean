/-
Transports: what carries a request to a provider and brings a response
back. Whatever goes wrong on the way is a `transport` failure. Two of
them need no stream: one hands each line straight to a server, the other
hands out responses prepared beforehand.
-/
import ProviderLink.Rpc.Server

namespace ProviderLink.Rpc

/-- What carries one request after the other. -/
class Transport (τ : Type) where
  exchange : Request → τ → Outcome Response × τ

/-- A transport of one of two types. -/
instance {σ τ : Type} [Transport σ] [Transport τ] : Transport (σ ⊕ τ) where
  exchange r
    | .inl t => let (answer, t) := Transport.exchange r t; (answer, .inl t)
    | .inr t => let (answer, t) := Transport.exchange r t; (answer, .inr t)

/-- The response that a line is. The failure of any other line quotes the reader, for whose words
`Json.complaint` stands, and the line. -/
def decodeResponse (line : String) : Outcome Response :=
  match Response.ofText? line with
  | some r => .ok r
  | none => .error (.transport ("undecodable response (" ++ Json.complaint ++ "): " ++ line))

-- =============================================================== local

/-- A server in the same process and the one connection to it. -/
structure LocalLink (π : Type) where
  server : Server π
  connection : Connection

namespace LocalLink

variable {π : Type}

/-- A new connection to a new server. -/
def new (provider : π) : LocalLink π := ⟨.new provider, .new⟩

/-- Hands the line of a request to the server. -/
def exchange [Provider π] (r : Request) (t : LocalLink π) : Outcome Response × LocalLink π :=
  let (response, server, connection) := t.server.handleLine t.connection r.text
  (decodeResponse response.text, ⟨server, connection⟩)

instance [Provider π] : Transport (LocalLink π) := ⟨exchange⟩

end LocalLink

-- ============================================================ prepared

/-- Responses handed out in order, whatever is asked. -/
structure Prepared where
  answers : List (Outcome Response)

namespace Prepared

/-- Hands out the next response. -/
def exchange (_ : Request) (t : Prepared) : Outcome Response × Prepared :=
  match t.answers with
  | [] => (.error (.transport "no canned response"), t)
  | answer :: rest => (answer, ⟨rest⟩)

instance : Transport Prepared := ⟨exchange⟩

end Prepared

-- ============================================================ recorded

/-- A transport and the requests that were given to it, in order. -/
structure Sent (τ : Type) where
  transport : τ
  requests : List Request

instance {τ : Type} [Transport τ] : Transport (Sent τ) where
  exchange r t :=
    let (answer, transport) := Transport.exchange r t.transport
    (answer, ⟨transport, t.requests ++ [r]⟩)

end ProviderLink.Rpc
