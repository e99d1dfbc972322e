/-! What a new user begins with: a small flow for a sales conversation, and a script for it. -/
namespace Colloquy.Sample

def flowLines : List String := [
  "# Sample Parley flow: a short B2B sales conversation.",
  "#",
  "# Every intent, action, state, field, category, and condition used below is",
  "# declared and checked when the flow loads. Run `parley validate` after",
  "# editing.",
  "",
  "initial_state = \"greeting\"",
  "",
  "intents = [",
  "  \"greeting\", \"agreement\", \"info_provided\", \"price_question\", \"feature_question\",",
  "  \"price_objection\", \"timing_objection\", \"competitor_objection\",",
  "  \"rejection\", \"goodbye\", \"unclear\",",
  "]",
  "",
  "actions = [",
  "  \"continue\", \"escalate_to_human\",",
  "  \"greet\", \"ask_company_size\", \"ask_for_details\", \"present\", \"present_enterprise\",",
  "  \"answer_price\", \"answer_feature\", \"handle_objection\", \"soft_close\",",
  "  \"offer_skip\", \"skip_question\", \"close_conversation\", \"nudge\", \"rephrase\",",
  "  \"schedule_demo\", \"say_goodbye\",",
  "]",
  "",
  "[engine]",
  "default_action = \"continue\"",
  "escalation_action = \"escalate_to_human\"",
  "unknown_intent = \"unclear\"",
  "unclear_category = \"unclear_intents\"",
  "history_limit = 20",
  "",
  "[fields.company_size]",
  "kind = \"int\"",
  "description = \"Number of employees\"",
  "",
  "[fields.industry]",
  "kind = \"text\"",
  "",
  "[fields.email]",
  "kind = \"text\"",
  "",
  "[fields.pain_points]",
  "kind = \"list\"",
  "merge = \"accumulate\"",
  "",
  "[categories]",
  "questions = [\"price_question\", \"feature_question\"]",
  "objections = [\"price_objection\", \"timing_objection\", \"competitor_objection\"]",
  "informative = [\"info_provided\", \"agreement\", \"@questions\"]",
  "leaving = [\"rejection\", \"goodbye\"]",
  "unclear_intents = [\"unclear\"]",
  "",
  "[conditions]",
  "enterprise = \"data.company_size >= 200\"",
  "has_contact = \"data.email EXISTS\"",
  "",
  "[states.greeting]",
  "goal = \"Open the conversation and earn a reply\"",
  "default_action = \"greet\"",
  "",
  "[states.greeting.transitions]",
  "agreement = \"discovery\"",
  "info_provided = \"discovery\"",
  "",
  "[states.greeting.rules]",
  "greeting = \"greet\"",
  "",
  "[states.discovery]",
  "goal = \"Learn the company size and industry\"",
  "required_data = [\"company_size\"]",
  "optional_data = [\"industry\", \"pain_points\", \"email\"]",
  "default_action = \"ask_company_size\"",
  "",
  "[states.discovery.transitions]",
  "data_complete = \"presentation\"",
  "stalled = \"presentation\"",
  "",
  "[states.discovery.rules]",
  "info_provided = [",
  "  \x7b when = \"data_complete\", then = \"present\" \x7d,",
  "  \x7b then = \"ask_for_details\" \x7d,",
  "]",
  "unclear = \"ask_company_size\"",
  "",
  "[states.presentation]",
  "goal = \"Present the product for the customer's size\"",
  "default_action = \"present\"",
  "",
  "[states.presentation.transitions]",
  "agreement = [",
  "  \x7b when = \"has_contact\", then = \"closing\" \x7d,",
  "  \x7b then = \"contact\" \x7d,",
  "]",
  "",
  "[states.presentation.rules]",
  "agreement = \"present\"",
  "info_provided = [",
  "  \x7b when = \"enterprise\", then = \"present_enterprise\" \x7d,",
  "  \x7b then = \"present\" \x7d,",
  "]",
  "price_objection = \"handle_objection\"",
  "timing_objection = \"handle_objection\"",
  "competitor_objection = \"handle_objection\"",
  "",
  "[states.contact]",
  "goal = \"Get an email address for the demo invite\"",
  "required_data = [\"email\"]",
  "default_action = \"ask_for_details\"",
  "",
  "[states.contact.transitions]",
  "data_complete = \"closing\"",
  "",
  "[states.closing]",
  "goal = \"Book the demo\"",
  "default_action = \"schedule_demo\"",
  "terminal = true",
  "",
  "[sources.questions]",
  "category = \"questions\"",
  "answers = \x7b price_question = \"answer_price\", feature_question = \"answer_feature\" \x7d",
  "default_answer = \"answer_feature\"",
  "",
  "[sources.rejection]",
  "category = \"leaving\"",
  "action = \"say_goodbye\"",
  "",
  "[guards.stall]",
  "max_turns_in_state = 8",
  "offer_skip_action = \"offer_skip\"",
  "skip_action = \"skip_question\"",
  "exit_action = \"close_conversation\"",
  "skip_state = \"closing\"",
  "",
  "[guards.loop]",
  "max_repeats = 4",
  "window = 8",
  "informative_category = \"informative\"",
  "nudge_action = \"nudge\"",
  "rephrase_action = \"rephrase\"",
  "exit_action = \"close_conversation\"",
  "",
  "[guards.objection]",
  "category = \"objections\"",
  "max_consecutive = 3",
  "max_total = 5",
  "action = \"soft_close\"",
  ""]

def flow : String := "\n".intercalate flowLines

def scriptLines : List String := [
  "# Sample turn script for `parley simulate --script`.",
  "#",
  "# Each [[turn]] is one classified user turn. `data` holds extracted fields.",
  "",
  "conversation_id = \"demo\"",
  "",
  "[[turn]]",
  "intent = \"greeting\"",
  "",
  "[[turn]]",
  "intent = \"agreement\"",
  "",
  "[[turn]]",
  "intent = \"price_question\"",
  "",
  "[[turn]]",
  "intent = \"info_provided\"",
  "data = \x7b company_size = 250, industry = \"logistics\" \x7d",
  "",
  "[[turn]]",
  "intent = \"price_objection\"",
  "",
  "[[turn]]",
  "intent = \"agreement\"",
  "",
  "[[turn]]",
  "intent = \"info_provided\"",
  "data = \x7b email = \"ops@example.com\" \x7d",
  ""]

def script : String := "\n".intercalate scriptLines

end Colloquy.Sample
