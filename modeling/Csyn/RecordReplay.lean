import Csyn.BagReplay
import Csyn.LinkCarriers

set_option autoImplicit false

/- A recording and its replay: `bag_record`, the file, `bag_play`, and a board of
zephyr/src/csyn_zenoh.c that subscribes to what is played. -/
namespace Csyn

/-- The filter lets the key through. -/
def selects (topicFilter : Option Str) (key : Str) : Bool :=
  topicFilter.all fun filter => filter == key

section

variable {profile : McapProfile} {fbs : SynapseFbs} {encodingForTopic : TopicInfo → Str}

end

section

variable {W C F : Type} {io : McapIo W C F} {profile : McapProfile} {fbs : SynapseFbs}
  {logged : W → List McapMessage} {channel : C → McapChannel} {receptions : List Reception}

end

end Csyn
