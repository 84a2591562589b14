import ServiceCall.Proofs.Bodies

/-!
# Tickets that say the same thing twice

Some bodies are assembled from the same arguments in several places. The comment of a ticket is
built by three operations of one helpdesk, and a new ticket of another one repeats its channel, its
origin, its subject and its customer in the only message that it holds. That the places agree is not
seen in a body of a few fixed arguments: each of them has defaults, and keys that are there only if
an argument is. They agree for all arguments (`ticket_bodies_agree`), since they are built by the
same steps and no step in between writes where these have written.
-/

namespace ServiceCall

namespace Part

variable {args : Args}

/-- Copies of arguments that are not there leave a body as it is. -/
theorem applyAll_copies_of_missing {names : List String}
    (h : ∀ name ∈ names, args.isPresent name = false) (payload : Payload) :
    applyAll args payload (copies names) = payload := by
  refine Table.ext_get? fun k ↦ ?_
  rw [get?_applyAll_copies]
  by_cases hk : k ∈ names
  · rw [if_pos hk, Args.present?_eq_none_iff.2 (h k hk), Option.none_or]
  · rw [if_neg hk]

end Part

/-! ## Comments -/

namespace Catalog.Zendesk

/-- What a comment holds. -/
def commentOf (args : Args) : Table Json :=
  Part.build [.copy "comment_body" "body", .copy "public" "public"] args

/-- The arguments that an update copies into the ticket. -/
def updated : List String :=
  ["subject", "priority", "status", "type", "tags", "assignee_id", "group_id", "custom_fields"]

/-- A body that holds a ticket and nothing else. -/
def ticketBody (ticket : Table Json) : Payload := Table.empty.insert "ticket" (.ofTable ticket)

def createdTicket (args : Args) : Table Json :=
  Part.build (Part.copies ["subject"] ++ comment :: Part.copies ["priority", "status", "type",
    "tags", "requester_id", "assignee_id", "group_id", "custom_fields"]) args

def updatedTicket (args : Args) : Table Json :=
  Part.build (Part.copies updated ++ [.ifPresent "comment_body" [comment]]) args

variable {args : Args}

theorem get?_commentOf {key : String} {v : Json} :
    (commentOf args).get? key = some v ↔
      key = "body" ∧ args.present? "comment_body" = some v ∨
        key = "public" ∧ args.present? "public" = some v := by
  rw [commentOf, Part.build, Part.applyAll, Part.applyAll, Part.applyAll, Part.get?_apply_copy,
    Part.get?_apply_copy, Table.get?_empty, Option.or_none]
  by_cases hpublic : key = "public"
  · subst hpublic
    simp
  · by_cases hbody : key = "body"
    · subst hbody
      simp
    · simp [hpublic, hbody]

theorem apply_comment (payload : Payload) :
    Part.apply args payload comment = payload.insert "comment" (.ofTable (commentOf args)) := by
  rw [comment, Part.apply]
  rfl

theorem payload?_of_ticket {operation : String} {parts : List Part}
    (hbody : (connector.operations.get? operation).bind (·.body) = some [.object "ticket" parts]) :
    connector.payload? operation args = some (ticketBody (Part.build parts args)) := by
  rw [Connector.payload?_of_body hbody, Part.build_object, ticketBody]

theorem payload?_create_ticket :
    connector.payload? "create_ticket" args = some (ticketBody (createdTicket args)) :=
  payload?_of_ticket rfl

theorem payload?_update_ticket :
    connector.payload? "update_ticket" args = some (ticketBody (updatedTicket args)) :=
  payload?_of_ticket rfl

theorem payload?_add_comment :
    connector.payload? "add_comment" args
      = some (ticketBody (Table.empty.insert "comment" (.ofTable (commentOf args)))) := by
  have hcomment : Part.build [comment] args
      = Table.empty.insert "comment" (.ofTable (commentOf args)) := by
    rw [Part.build, Part.applyAll, Part.applyAll, apply_comment]
  rw [← hcomment]
  exact payload?_of_ticket rfl

theorem get?_comment_createdTicket :
    (createdTicket args).get? "comment" = some (.ofTable (commentOf args)) := by
  rw [createdTicket, Part.build, Part.applyAll_append, Part.applyAll, Part.get?_applyAll_copies,
    if_neg (by decide), apply_comment, Table.get?_insert_self]

theorem updatedTicket_of_present (h : args.isPresent "comment_body" = true) :
    updatedTicket args = (Part.build (Part.copies updated) args).insert "comment"
      (.ofTable (commentOf args)) := by
  rw [updatedTicket, Part.build, Part.applyAll_append, Part.applyAll, Part.applyAll, Part.apply,
    if_pos h, Part.applyAll, Part.applyAll, apply_comment, Part.build]

theorem updatedTicket_of_missing (h : args.isPresent "comment_body" = false) :
    updatedTicket args = Part.build (Part.copies updated) args := by
  rw [updatedTicket, Part.build, Part.applyAll_append, Part.applyAll, Part.applyAll, Part.apply, h]
  rfl

/-- An update has a comment exactly if there is a text for one. -/
theorem get?_comment_updatedTicket :
    (updatedTicket args).get? "comment"
      = if args.isPresent "comment_body" = true then some (.ofTable (commentOf args))
        else none := by
  by_cases hbody : args.isPresent "comment_body" = true
  · rw [if_pos hbody, updatedTicket_of_present hbody, Table.get?_insert_self]
  · rw [if_neg hbody, updatedTicket_of_missing (Bool.not_eq_true _ ▸ hbody), Part.build,
      Part.get?_applyAll_copies, if_neg (by decide), Table.get?_empty]

/-- An update of nothing but the comment adds the comment. -/
theorem updatedTicket_of_comment_alone (hmissing : ∀ name ∈ updated, args.isPresent name = false)
    (hbody : args.isPresent "comment_body" = true) :
    updatedTicket args = Table.empty.insert "comment" (.ofTable (commentOf args)) := by
  rw [updatedTicket_of_present hbody, Part.build, Part.applyAll_copies_of_missing hmissing]

end Catalog.Zendesk

/-! ## The only message of a new ticket -/

namespace Catalog.Gorgias

variable {args : Args}

/-- The steps for the message of a new ticket. -/
def messageParts : List Part :=
  origin ++ [.flag "from_agent" "from_agent", customer "sender", .copy "message_body" "body_text",
    .copy "message_html" "body_html", .copy "subject" "subject"]

/-- What the message of a new ticket holds. -/
def messageOf (args : Args) : Table Json := Part.build messageParts args

/-- The arguments that a new ticket holds under their own names. -/
def copied : List String := ["subject", "status", "priority", "tags", "assignee_user"]

/-- What a new ticket holds. -/
def ticketOf (args : Args) : Table Json := Part.build createBody args

/-- An object that holds the address of the customer. -/
def customerOf (args : Args) : Table Json :=
  Table.empty.insert "email" (.str (args.textOr "customer_email" ""))

theorem apply_customer (payload : Payload) (key : String) :
    Part.apply args payload (customer key) = payload.insert key (.ofTable (customerOf args)) := by
  rw [customer, Part.apply]
  rfl

theorem get?_messageOf (key : String) :
    (messageOf args).get? key
      = if key = "channel" then some (.str (args.textOr "channel" "email"))
        else if key = "via" then some (.str (args.textOr "via" "api"))
        else if key = "from_agent" then some (.bool (args.flag "from_agent"))
        else if key = "sender" then some (.ofTable (customerOf args))
        else if key = "body_text" then args.present? "message_body"
        else if key = "body_html" then args.present? "message_html"
        else if key = "subject" then args.present? "subject" else none := by
  simp only [messageOf, messageParts, Part.build, origin, List.cons_append, List.nil_append,
    Part.applyAll, apply_customer]
  simp only [Part.apply, Table.get?_insert, Part.get?_addOption, Table.get?_empty]
  -- No two of the steps write under one key, so their order does not matter.
  grind

theorem createBody_eq : createBody = customer "customer" :: .single "messages" messageParts ::
    (origin ++ Part.copies copied) := rfl

theorem get?_ticketOf (key : String) :
    (ticketOf args).get? key
      = if key = "customer" then some (.ofTable (customerOf args))
        else if key = "messages" then some (.arr [.ofTable (messageOf args)])
        else if key = "channel" then some (.str (args.textOr "channel" "email"))
        else if key = "via" then some (.str (args.textOr "via" "api"))
        else if key ∈ copied then args.present? key else none := by
  rw [ticketOf, Part.build, createBody_eq, Part.applyAll, Part.applyAll, Part.applyAll_append,
    Part.get?_applyAll_copies, apply_customer, Part.apply, ← Part.build, ← messageOf]
  simp only [origin, Part.applyAll, Part.apply, Table.get?_insert, Table.get?_empty]
  grind [copied]

/-- The message repeats what it shares with the ticket. -/
theorem get?_messageOf_eq_get?_ticketOf {key : String} (h : key ∈ ["channel", "via", "subject"]) :
    (messageOf args).get? key = (ticketOf args).get? key := by
  rw [get?_messageOf, get?_ticketOf]
  simp only [List.mem_cons, List.not_mem_nil, or_false] at h
  obtain rfl | rfl | rfl := h
  · simp
  · simp
  · simp [copied]

theorem payload?_create_ticket :
    connector.payload? "create_ticket" args = some (ticketOf args) := by
  have hbody : (connector.operations.get? "create_ticket").bind (·.body) = some createBody := rfl
  rw [Connector.payload?_of_body hbody, ticketOf]

theorem mem_required {op : Operation}
    (hop : connector.operations.get? "create_ticket" = some op) :
    ⟨"customer_email", some Json.isEmail⟩ ∈ op.required ∧ ⟨"message_body", none⟩ ∈ op.required := by
  cases hop
  exact ⟨.head _, .tail _ (.head _)⟩

/-- An email that was checked is a string, and so its text is what was given. -/
theorem get?_customerOf {email : Json} (h : args.present? "customer_email" = some email)
    (haccepted : email.isEmail = true) : (customerOf args).get? "email" = some email := by
  rw [customerOf, Table.get?_insert_self, Args.textOr, Args.text?, h]
  cases email with
  | str s => rfl
  | null | bool b | num n | arr items | obj fields => cases haccepted

end Catalog.Gorgias

/-! ## Agreement -/

/-- **Bodies that are built from the same arguments agree.** One helpdesk takes the same comment in
a new ticket, in an added comment and in an update; an update has it exactly if there is a text for
it, and is an added comment if nothing else is to be updated. In an accepted new ticket of the other
helpdesk there is one message, with the channel, the origin, the subject and the customer of the
ticket; the customer has the email that was checked, and the text of the message is the one
given. -/
theorem ticket_bodies_agree (args : Args) :
    (∃ comment created updated : Table Json,
      Catalog.Zendesk.connector.payload? "create_ticket" args
        = some (Catalog.Zendesk.ticketBody created) ∧
      Catalog.Zendesk.connector.payload? "update_ticket" args
        = some (Catalog.Zendesk.ticketBody updated) ∧
      Catalog.Zendesk.connector.payload? "add_comment" args
        = some (Catalog.Zendesk.ticketBody (Table.empty.insert "comment" (.ofTable comment))) ∧
      created.get? "comment" = some (.ofTable comment) ∧
      (args.isPresent "comment_body" = true → updated.get? "comment" = some (.ofTable comment)) ∧
      ((∃ v, updated.get? "comment" = some v) ↔ args.isPresent "comment_body" = true) ∧
      ((∀ name ∈ Catalog.Zendesk.updated, args.isPresent name = false) →
        args.isPresent "comment_body" = true →
          Catalog.Zendesk.connector.payload? "update_ticket" args
            = Catalog.Zendesk.connector.payload? "add_comment" args) ∧
      ∀ key v, comment.get? key = some v ↔
        key = "body" ∧ args.present? "comment_body" = some v ∨
          key = "public" ∧ args.present? "public" = some v) ∧
    ∀ base call, Catalog.Gorgias.connector.prepare base args = .ok call →
      call.operation = "create_ticket" →
        ∃ ticket message customer : Table Json, ∃ email body : Json,
          call.payload = some ticket ∧ ticket.get? "messages" = some (.arr [.ofTable message]) ∧
          (∀ key ∈ ["channel", "via", "subject"], message.get? key = ticket.get? key) ∧
          ticket.get? "channel" = some (.str (args.textOr "channel" "email")) ∧
          ticket.get? "via" = some (.str (args.textOr "via" "api")) ∧
          ticket.get? "subject" = args.present? "subject" ∧
          ticket.get? "customer" = some (.ofTable customer) ∧
          message.get? "sender" = some (.ofTable customer) ∧
          customer.get? "email" = some email ∧ args.get? "customer_email" = some email ∧
          email.isEmail = true ∧
          message.get? "body_text" = some body ∧ args.get? "message_body" = some body := by
  refine ⟨?_, ?_⟩
  · refine ⟨_, _, _, Catalog.Zendesk.payload?_create_ticket, Catalog.Zendesk.payload?_update_ticket,
      Catalog.Zendesk.payload?_add_comment, Catalog.Zendesk.get?_comment_createdTicket, ?_, ?_, ?_,
      fun _ _ ↦ Catalog.Zendesk.get?_commentOf⟩
    · intro hbody
      rw [Catalog.Zendesk.get?_comment_updatedTicket, if_pos hbody]
    · rw [Catalog.Zendesk.get?_comment_updatedTicket]
      simp
    · intro hmissing hbody
      rw [Catalog.Zendesk.payload?_update_ticket, Catalog.Zendesk.payload?_add_comment,
        Catalog.Zendesk.updatedTicket_of_comment_alone hmissing hbody]
  · intro base call h hoperation
    obtain ⟨op, hop, hcheck, hpayload⟩ := Connector.exists_operation_of_prepare h
    rw [hoperation] at hop hpayload
    obtain ⟨hemailRequired, hbodyRequired⟩ := Catalog.Gorgias.mem_required hop
    obtain ⟨email, hemail, haccepted⟩ := Operation.exists_present_of_check hcheck hemailRequired
    obtain ⟨body, hbody, -⟩ := Operation.exists_present_of_check hcheck hbodyRequired
    refine ⟨_, Catalog.Gorgias.messageOf args, Catalog.Gorgias.customerOf args, email, body,
      hpayload.trans Catalog.Gorgias.payload?_create_ticket, ?_,
      fun _ ↦ Catalog.Gorgias.get?_messageOf_eq_get?_ticketOf, ?_, ?_, ?_, ?_, ?_,
      Catalog.Gorgias.get?_customerOf hemail haccepted, (Args.present?_eq_some_iff.1 hemail).1,
      haccepted, ?_, (Args.present?_eq_some_iff.1 hbody).1⟩
    all_goals simp [Catalog.Gorgias.get?_ticketOf, Catalog.Gorgias.get?_messageOf,
      Catalog.Gorgias.copied, hbody]

/-- A new ticket without a subject and with nothing to update but a comment. -/
def bareTicket : Args :=
  ⟨.ofList [("operation", .str "create_ticket"), ("domain", .str "acme"),
    ("username", .str "agent@example.com"), ("api_key", .str "k"),
    ("customer_email", .str "jane@example.com"), ("message_body", .str "Where is it?"),
    ("via", .str "helpdesk"), ("comment_body", .str "On its way.")]⟩

theorem bare_ticket_agrees :
    (∃ comment : Table Json,
      Catalog.Zendesk.connector.payload? "update_ticket" bareTicket
        = Catalog.Zendesk.connector.payload? "add_comment" bareTicket ∧
      Catalog.Zendesk.connector.payload? "add_comment" bareTicket
        = some (Catalog.Zendesk.ticketBody (Table.empty.insert "comment" (.ofTable comment))) ∧
      comment.get? "body" = some (.str "On its way.")) ∧
    ∃ call ticket message,
      Catalog.Gorgias.connector.prepare none bareTicket = .ok call ∧ call.payload = some ticket ∧
      ticket.get? "messages" = some (.arr [.ofTable message]) ∧
      message.get? "via" = some (.str "helpdesk") ∧ message.get? "subject" = none ∧
      message.get? "body_text" = some (.str "Where is it?") := by
  obtain ⟨⟨comment, created, updated, -, -, hadd, -, -, -, hsame, hcontent⟩, hgorgias⟩ :=
    ticket_bodies_agree bareTicket
  have hcall : (Catalog.Gorgias.connector.prepare none bareTicket).toOption.map Call.operation
      = some "create_ticket" := by
    decide +kernel
  obtain ⟨call, hprepare, hoperation⟩ := exists_eq_ok_of_toOption hcall
  obtain ⟨ticket, message, customer, email, body, hpayload, hmessages, hshared, -, hvia, hsubject,
    -, -, -, -, -, htext, hbody⟩ := hgorgias none call hprepare hoperation
  refine ⟨⟨comment, hsame (by decide +kernel) (by decide +kernel), hadd,
    (hcontent _ _).2 (.inl ⟨rfl, by decide +kernel⟩)⟩, call, ticket, message, hprepare, hpayload,
    hmessages, ?_, ?_, ?_⟩
  · have hgiven : bareTicket.textOr "via" "api" = "helpdesk" := by decide +kernel
    rw [hshared "via" (by decide), hvia, hgiven]
  · have hnone : bareTicket.present? "subject" = none := by decide +kernel
    rw [hshared "subject" (by decide), hsubject, hnone]
  · have hgiven : bareTicket.get? "message_body" = some (.str "Where is it?") := by decide +kernel
    rw [htext, ← hbody, hgiven]

end ServiceCall
