/-!
# Dialogues

A dialogue with a server: it sends a request, goes on by the reply, and ends with
a result. It is a finite tree, so it holds the requests for every way in which a
server may reply, and it knows nothing of the server's state.

`run` plays a dialogue with one server. The server is a function from its state and
a request to a reply and its next state: it may be a database, or a script that
says what to reply to each request in turn.
-/

namespace FlashSale

inductive Dialogue (Request Reply α : Type) where
  | done (result : α)
  | ask (request : Request) (next : Reply → Dialogue Request Reply α)

namespace Dialogue

variable {Request Reply Server α β : Type}

/-- Sends a request; the result is the reply to it. -/
def send (request : Request) : Dialogue Request Reply Reply := .ask request .done

def bind (d : Dialogue Request Reply α) (f : α → Dialogue Request Reply β) :
    Dialogue Request Reply β :=
  match d with
  | done a => f a
  | ask request next => ask request fun reply => (next reply).bind f

instance : Monad (Dialogue Request Reply) where
  pure := done
  bind := bind

/-- Plays a dialogue with a server. -/
def run (serve : Server → Request → Reply × Server) :
    Dialogue Request Reply α → Server → α × Server
  | done a, server => (a, server)
  | ask request next, server =>
    let (reply, server) := serve server request
    run serve (next reply) server

@[simp] theorem run_done (serve : Server → Request → Reply × Server) (a : α) (server : Server) :
    run serve (.done a) server = (a, server) := rfl

@[simp] theorem run_ask (serve : Server → Request → Reply × Server) (request : Request)
    (next : Reply → Dialogue Request Reply α) (server : Server) :
    run serve (.ask request next) server =
      run serve (next (serve server request).1) (serve server request).2 := rfl

@[simp] theorem run_send (serve : Server → Request → Reply × Server) (request : Request)
    (server : Server) : run serve (send request) server = serve server request := rfl

theorem run_bind (serve : Server → Request → Reply × Server) (d : Dialogue Request Reply α)
    (f : α → Dialogue Request Reply β) (server : Server) :
    run serve (d.bind f) server = run serve (f (run serve d server).1) (run serve d server).2 := by
  induction d generalizing server with
  | done a => rfl
  | ask request next ih => exact ih _ _

end Dialogue

end FlashSale
