import TeamCalendar.Proofs.Delivery.Message
import TeamCalendar.Proofs.Settings.WellFormed
import TeamCalendar.Standalone

/-!
# The topic of deliveries

The settings keep every topic that is not blank, but a header takes only topics without control
characters, tabs aside.  So a topic can be laid down under which no change is ever delivered, and
nobody is told.

* `Standalone.posts_iff` says when a service delivers changes.
-/

namespace TeamCalendar

/-! ## What the service does with a change -/

namespace Standalone

variable {service : Standalone} {url : String} {change : Change}

theorem run_deliver (hurl : service.delivery.webhookUrl = some url) :
    ((deliver change).run service).run =
      if Http.IsClear service.delivery.topic then
        .ask (.web (Delivery.message url service.delivery.topic service.delivery.signingSecret
          change)) fun _ => .done (some ((), service))
      else .done (some ((), service)) := by
  obtain ⟨backend, runtime, directories, ⟨webhookUrl, topic, secret, timeoutMs⟩, store, tally⟩ :=
    service
  cases hurl
  let service : Standalone :=
    { backend, runtime, directories, store, tally
      delivery := ⟨some url, topic, secret, timeoutMs⟩ }
  change ((do
    let _ ← ((Delivery.deliver url topic secret change).interpret send).run 0 : Action Unit)
      service).run = _
  rw [Delivery.deliver_eq]
  split
  · rfl
  · rfl

/-- The service puts a change into a message that can be sent to the address that was laid down, and
asks for it to be sent.  Whatever comes back, the service is as before. -/
def Posts (service : Standalone) (change : Change) : Prop :=
  ∃ message : Web.Message,
    service.delivery.webhookUrl = some message.url ∧ message.isSendable = true ∧
    Delivery.Carries message service.delivery.topic service.delivery.signingSecret change ∧
    ((deliver change).run service).run = .ask (.web message) fun _ => .done (some ((), service))

/-- The service does not do anything about a change. -/
def Ignores (service : Standalone) (change : Change) : Prop :=
  ((deliver change).run service).run = .done (some ((), service))

theorem posts_of_isClear (hurl : service.delivery.webhookUrl = some url)
    (haddress : Web.isAddress url = true) (hclear : Http.IsClear service.delivery.topic) :
    service.Posts change := by
  refine ⟨Delivery.message url service.delivery.topic service.delivery.signingSecret change, hurl,
    ?_, Delivery.carries_message _ _ _ _, ?_⟩
  · rw [Delivery.isSendable_message hclear, haddress]
  · rw [run_deliver hurl, if_pos hclear]

theorem ignores_of_not_isClear (hurl : service.delivery.webhookUrl = some url)
    (hclear : ¬ Http.IsClear service.delivery.topic) : service.Ignores change := by
  rw [Ignores, run_deliver hurl, if_neg hclear]

theorem not_posts_of_ignores (h : service.Ignores change) : ¬ service.Posts change := by
  rintro ⟨message, -, -, -, hasked⟩
  rw [Ignores, hasked] at h
  cases h

/-! ## What is laid down -/

/-- Every topic that is not blank can be laid down. -/
theorem load_topic (url topic : String) (hurl : Text.isBlankText url = false)
    (htopic : Text.isBlankText topic = false) :
    Settings.load none
        [("EVENTS_NOTIFIER_WEBHOOK_URL", url), ("EVENTS_NOTIFIER_TOPIC", topic)] =
      .ok { notifierWebhookUrl := some url, notifierTopic := topic } := by
  refine Settings.load_beside_default rfl ?_ htopic (by decide)
  simp only [List.forall_mem_cons]
  exact ⟨nofun, fun s hs => by cases hs; exact hurl, nofun, nofun⟩

/-- Settings that are loaded describe a service. -/
theorem exists_ofSettings {file : Option (List UInt8)} {environment : Environment}
    {settings : Settings} (hload : Settings.load file environment = .ok settings) :
    ∃ service, ofSettings settings = .ok service ∧ service.delivery = settings.delivery := by
  obtain ⟨-, -, -, hcheck⟩ := Settings.load_eq_ok_iff.1 hload
  rcases (Settings.check_eq_ok_iff.1 hcheck).backend with hname | hname
  · have hbackend := Settings.backend_eq_ok_iff.2 (.inl ⟨hname, rfl⟩)
    exact ⟨_, by rw [ofSettings, hbackend]; rfl, rfl⟩
  · have hbackend := Settings.backend_eq_ok_iff.2 (.inr ⟨hname, rfl⟩)
    exact ⟨_, by rw [ofSettings, hbackend]; rfl, rfl⟩

/-- Whatever the settings were loaded from, if they lay down an address to which a message can be
sent, then the service that they describe delivers every change, or else none: it depends on whether
there is a control character in the topic that is no tab. -/
theorem posts_iff {file : Option (List UInt8)} {environment : Environment} {settings : Settings}
    (hload : Settings.load file environment = .ok settings)
    (hurl : settings.delivery.webhookUrl = some url) (haddress : Web.isAddress url = true) :
    ∃ service, ofSettings settings = .ok service ∧ ∀ change,
      (service.Posts change ↔ Http.IsClear settings.delivery.topic) ∧
      (service.Ignores change ↔ ¬ Http.IsClear settings.delivery.topic) := by
  obtain ⟨service, hservice, hdelivery⟩ := exists_ofSettings hload
  rw [← hdelivery] at hurl ⊢
  refine ⟨service, hservice, fun change => ?_⟩
  by_cases hclear : Http.IsClear service.delivery.topic
  · have hposts : service.Posts change := posts_of_isClear hurl haddress hclear
    exact ⟨iff_of_true hposts hclear,
      iff_of_false (fun hignores => not_posts_of_ignores hignores hposts) (not_not_intro hclear)⟩
  · have hignores : service.Ignores change := ignores_of_not_isClear hurl hclear
    exact ⟨iff_of_false (not_posts_of_ignores hignores) hclear, iff_of_true hignores hclear⟩

/-- Under a topic with a tab changes are delivered. -/
theorem posts_iff_sample :
    ∃ settings, Settings.load none
        [("EVENTS_NOTIFIER_WEBHOOK_URL", "http://127.0.0.1/hook"),
         ("EVENTS_NOTIFIER_TOPIC", "team\tevents")] = .ok settings ∧
      Web.isAddress "http://127.0.0.1/hook" = true ∧
      ∃ service, ofSettings settings = .ok service ∧ ∀ change, service.Posts change := by
  have haddress : Web.isAddress "http://127.0.0.1/hook" = true := by decide +kernel
  have hload := load_topic "http://127.0.0.1/hook" "team\tevents"
    (by decide +kernel) (by decide +kernel)
  obtain ⟨service, hservice, hposts⟩ := posts_iff hload rfl haddress
  refine ⟨_, hload, haddress, service, hservice, fun change => ?_⟩
  exact (hposts change).1.2 (by decide +kernel)

/-- Under a topic of two lines nothing is delivered. -/
theorem exists_topic_ignored :
    ∃ settings, Settings.load none
        [("EVENTS_NOTIFIER_WEBHOOK_URL", "http://127.0.0.1/hook"),
         ("EVENTS_NOTIFIER_TOPIC", "team\nevents")] = .ok settings ∧
      settings.delivery.webhookUrl = some "http://127.0.0.1/hook" ∧
      Web.isAddress "http://127.0.0.1/hook" = true ∧
      ∃ service, ofSettings settings = .ok service ∧
        ∀ change, service.Ignores change ∧ ¬ service.Posts change := by
  have hload := load_topic "http://127.0.0.1/hook" "team\nevents"
    (by decide +kernel) (by decide +kernel)
  obtain ⟨service, hservice, hdelivery⟩ := exists_ofSettings hload
  have hurl : service.delivery.webhookUrl = some "http://127.0.0.1/hook" := by
    rw [hdelivery]
    rfl
  have hclear : ¬ Http.IsClear service.delivery.topic := by
    rw [hdelivery]
    decide +kernel
  refine ⟨_, hload, rfl, by decide +kernel, service, hservice, fun change => ?_⟩
  have hignores : service.Ignores change := ignores_of_not_isClear hurl hclear
  exact ⟨hignores, not_posts_of_ignores hignores⟩

end Standalone

end TeamCalendar
