import FlashSale.KeyValue.Store
import FlashSale.Database.Query

/-!
# Scripted servers

Servers that reply as a script says, for the rehearsal of a dialogue. A script lists
replies, each of which is given once, and the server keeps what it was asked.

A scripted database takes a reply from the list only for a prepared statement; a
command succeeds unless the script names a beginning of it that fails.
-/

namespace FlashSale.Rehearsal

structure Script (Request Reply : Type) where
  /-- The replies to come. Each may look at the request to know its form. -/
  replies : List (Request → Reply)
  /-- The reply when there are no more. -/
  last : Reply
  /-- The requests so far, the last one first. -/
  asked : List Request := []

namespace Script

variable {Request Reply : Type}

def keep (s : Script Request Reply) (request : Request) : Script Request Reply :=
  { s with asked := request :: s.asked }

def reply (s : Script Request Reply) (request : Request) : Reply × Script Request Reply :=
  match s.replies with
  | [] => (s.last, s.keep request)
  | r :: rest => (r request, { s with replies := rest }.keep request)

end Script

structure ScriptedDatabase where
  script : Script Database.Statement Database.Reply
  /-- Beginnings of the commands that fail, with the message of the failure. -/
  failing : List (String × String)

namespace ScriptedDatabase

def ofReplies (replies : List (Database.Statement → Database.Reply))
    (failing : List (String × String)) : ScriptedDatabase :=
  { script := { replies, last := .affected 0 }, failing }

/-- The message with which a command fails, if it does. -/
def failure? (d : ScriptedDatabase) (command : Database.Statement) : Option String :=
  (d.failing.find? fun entry => entry.1.toList.isPrefixOf command.text.toList).map (·.2)

def serve (d : ScriptedDatabase) (s : Database.Statement) : Database.Reply × ScriptedDatabase :=
  if s.isCommand then
    let reply := match d.failure? s with
      | some message => .failed message
      | none => .affected 0
    (reply, { d with script := d.script.keep s })
  else
    let (reply, script) := d.script.reply s
    (reply, { d with script })

end ScriptedDatabase

/-- The server of the reservation store under a script. -/
def keyValueServer (replies : List KeyValue.Reply) : Script KeyValue.Command KeyValue.Reply :=
  { replies := replies.map fun r _ => r
    last := .error { code := "ERR", detail := some "unscripted" } }

/-- What came of a dialogue: its result, what was asked in turn, and how many replies are left. -/
structure Played (Request α : Type) where
  result : α
  asked : List Request
  unused : Nat

def Played.of {Request Reply α : Type} (result : α) (s : Script Request Reply) :
    Played Request α :=
  { result, asked := s.asked.reverse, unused := s.replies.length }

/-- Plays a dialogue with a scripted database. -/
def playQuery {α : Type} (q : Database.Query α)
    (replies : List (Database.Statement → Database.Reply))
    (failing : List (String × String)) : Played Database.Statement α :=
  let (result, d) := q.run ScriptedDatabase.serve (.ofReplies replies failing)
  .of result d.script

/-- Plays a dialogue with a scripted key-value server. -/
def playSession {α : Type} (d : KeyValue.Session α) (replies : List KeyValue.Reply) :
    Played KeyValue.Command α :=
  let (result, s) := d.run Script.reply (keyValueServer replies)
  .of result s

end FlashSale.Rehearsal
