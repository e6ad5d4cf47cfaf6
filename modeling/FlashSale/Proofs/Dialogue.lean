import FlashSale.Dialogue

/-!
# What dialogues send, and to which servers

The requests that a dialogue sends can be told without a server: some of them are sent whatever
the replies are. And a dialogue that looks at its replies in part only goes on alike with any
two servers whose replies are alike in that part. What is said of one server is then said of
all servers that cannot be told from it by these requests.
-/

namespace FlashSale.Dialogue

variable {Request Reply Server Server' α β γ δ : Type}

/-- Every request of the dialogue is one of these, whatever is replied. Replies that no
server gives are included. -/
inductive Sends (p : Request → Prop) : Dialogue Request Reply α → Prop where
  | done (a : α) : Sends p (.done a)
  | ask {request : Request} {next : Reply → Dialogue Request Reply α} (sent : p request)
      (rest : ∀ reply, Sends p (next reply)) : Sends p (.ask request next)

/-- The two dialogues send the same requests, each of which is one of these, for as long as they
get replies that are alike, and end with results that agree. -/
inductive Follows (p : Request → Prop) (alike : Reply → Reply → Prop) (agree : α → β → Prop) :
    Dialogue Request Reply α → Dialogue Request Reply β → Prop where
  | done {a : α} {b : β} (same : agree a b) : Follows p alike agree (.done a) (.done b)
  | ask {request : Request} {next : Reply → Dialogue Request Reply α}
      {next' : Reply → Dialogue Request Reply β} (sent : p request)
      (rest : ∀ reply reply', alike reply reply' →
        Follows p alike agree (next reply) (next' reply')) :
      Follows p alike agree (.ask request next) (.ask request next')

variable {p : Request → Prop} {alike : Reply → Reply → Prop} {agree : α → β → Prop}
  {agree' : γ → δ → Prop}

namespace Sends

theorem bind {d : Dialogue Request Reply α} {f : α → Dialogue Request Reply β} (first : d.Sends p)
    (later : ∀ a, (f a).Sends p) : (d.bind f).Sends p := by
  induction first with
  | done a => exact later a
  | ask sent _ ih => exact .ask sent ih

/-- What every request leaves as it was, the dialogue leaves as it was. What is looked
at of the server is up to the view. -/
theorem run {serve : Server → Request → Reply × Server} {d : Dialogue Request Reply α}
    (sends : d.Sends p) {γ : Type} (view : Server → γ)
    (keeps : ∀ server request, p request → view (serve server request).2 = view server)
    (server : Server) : view (d.run serve server).2 = view server := by
  induction sends generalizing server with
  | done a => rfl
  | ask sent _ ih => exact (ih _ _).trans (keeps server _ sent)

/-- A dialogue that gets the same replies goes on in the same way. Here `alike` and
`agree` are equality. -/
theorem follows {d : Dialogue Request Reply α} (sends : d.Sends p) : Follows p Eq Eq d d := by
  induction sends with
  | done a => exact .done rfl
  | ask sent _ ih =>
      refine .ask sent fun reply reply' same => ?_
      subst same
      exact ih reply

end Sends

namespace Follows

/-- Dialogues in sequence follow each other if the parts do, the second parts for all results of
the first ones that agree. -/
theorem bind {d : Dialogue Request Reply α} {d' : Dialogue Request Reply β}
    {f : α → Dialogue Request Reply γ} {f' : β → Dialogue Request Reply δ}
    (first : Follows p alike agree d d')
    (later : ∀ a b, agree a b → Follows p alike agree' (f a) (f' b)) :
    Follows p alike agree' (d.bind f) (d'.bind f') := by
  induction first with
  | done same => exact later _ _ same
  | ask sent _ ih => exact .ask sent ih

/-- Servers that stay related and reply alike lead to results that agree, and are related at the
end. The relation says all that the dialogues need to know of the two states. -/
theorem run {d : Dialogue Request Reply α} {d' : Dialogue Request Reply β}
    (follows : Follows p alike agree d d') {serve : Server → Request → Reply × Server}
    {serve' : Server' → Request → Reply × Server'} {R : Server → Server' → Prop}
    (step : ∀ server server' request, R server server' → p request →
      alike (serve server request).1 (serve' server' request).1 ∧
        R (serve server request).2 (serve' server' request).2)
    {server : Server} {server' : Server'} (related : R server server') :
    agree (d.run serve server).1 (d'.run serve' server').1 ∧
      R (d.run serve server).2 (d'.run serve' server').2 := by
  induction follows generalizing server server' with
  | done same => exact ⟨same, related⟩
  | ask sent _ ih =>
      obtain ⟨replies, next⟩ := step server server' _ related sent
      exact ih _ _ replies next

end Follows

end FlashSale.Dialogue
