import TinderDinner.Collections.Alignment
import TinderDinner.Collections.Dictionary
import TinderDinner.Collections.Quoted
import TinderDinner.Collections.Sampling
import TinderDinner.Collections.Separated
import TinderDinner.Collections.WriteBehind
import TinderDinner.Swift.Integers
import TinderDinner.Semantics.Replica
import TinderDinner.Firestore.FieldValue
import TinderDinner.Firestore.FieldPathText
import TinderDinner.Firestore.Instance
import TinderDinner.Firestore.Mutation
import TinderDinner.Firestore.ResourcePath
import TinderDinner.Firestore.Serializer
import TinderDinner.Firestore.LocalSerializer
import TinderDinner.Koloda.KolodaView
import TinderDinner.Koloda.Window
import TinderDinner.Koloda.Contents
import TinderDinner.Model.AllergenFilter
import TinderDinner.Model.AllergenSettings
import TinderDinner.Model.DatabaseManager
import TinderDinner.Model.Dealing
import TinderDinner.Model.GroupDocument
import TinderDinner.Model.GroupView
import TinderDinner.Model.GroupWrites
import TinderDinner.Model.Lookup
import TinderDinner.Model.PreloadManager
import TinderDinner.Model.RecursiveVotes
import TinderDinner.Model.Restart
import TinderDinner.Model.Votes
import TinderDinner.Controller.Session
import TinderDinner.Controller.SessionSystem
import TinderDinner.Controller.ClientSettings
import TinderDinner.Controller.GroupIdentity
import TinderDinner.Controller.OnlineFlag
import TinderDinner.Controller.RunOut
import TinderDinner.Controller.Listeners
import TinderDinner.Controller.Device
import TinderDinner.Controller.DeviceSystem
import TinderDinner.Controller.SessionStart
import TinderDinner.Controller.DisplayedCard
import TinderDinner.Controller.SessionVotes
import TinderDinner.Controller.HostStart
import TinderDinner.Controller.Cancel
import TinderDinner.Controller.Rounds
import TinderDinner.Controller.NextRound
import TinderDinner.Controller.Favourites
import TinderDinner.Controller.FavouriteDeletion
import TinderDinner.Controller.JoinText
import TinderDinner.Controller.StoredDinners
import TinderDinner.Controller.DinnerScreens
import TinderDinner.Controller.AllergenTable
import TinderDinner.Protocol.WaitingRoom
import TinderDinner.Protocol.ParticipantCount
import TinderDinner.Protocol.Membership
import TinderDinner.Protocol.Provenance
import TinderDinner.Protocol.CodeSpace
import TinderDinner.Protocol.SessionStability
import TinderDinner.Protocol.Swiping
import TinderDinner.Protocol.SwipingPhase
import TinderDinner.Protocol.Results
import TinderDinner.Protocol.GroupCreation
import TinderDinner.Protocol.CreateFlow
import TinderDinner.Protocol.DocumentStore
import TinderDinner.Controller.Crashes
import TinderDinner.Protocol.Fleet
