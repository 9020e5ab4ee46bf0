import RssiService.ThreatIntelligence.Findings

/-!
# What a finding means

The texts that stand next to a finding: what it is, what it implies and what to do.
-/

namespace RssiService.ThreatIntelligence

structure Explanation where
  meaning : String
  impact : String
  action : String
  deriving DecidableEq, Repr

/-- The texts of an endpoint. -/
def explanationOf : SourceEndpoint → Explanation
  | .stealer =>
      { meaning :=
          "L'ordinateur de cette personne a été infecté par un logiciel qui recopie les mots " ++
          "de passe enregistrés dans le navigateur. Les identifiants récupérés circulent " ++
          "ensuite entre attaquants."
        impact :=
          "Tout ce que ce poste avait mémorisé est à considérer comme connu : messagerie, " ++
          "outils métier, banque en ligne. Et tant que la machine n'est pas nettoyée, un " ++
          "nouveau mot de passe saisi dessus repartira de la même façon."
        action :=
          "Changez ce mot de passe partout où il est réutilisé, et faites vérifier " ++
          "l'ordinateur concerné avant de le réutiliser pour des accès sensibles." }
  | .sessions =>
      { meaning :=
          "Un « cookie de session » a été volé : c'est le jeton que votre navigateur garde " ++
          "après une connexion réussie, pour ne pas redemander le mot de passe à chaque page."
        impact :=
          "Avec ce jeton, un attaquant entre dans le compte sans avoir besoin du mot de " ++
          "passe ni du code de double authentification. Changer le mot de passe ne suffit " ++
          "donc pas : le jeton reste valable tant que la session n'est pas fermée."
        action :=
          "Déconnectez toutes les sessions actives de ce compte (option « se déconnecter " ++
          "partout » dans les paramètres du service), puis changez le mot de passe." }
  | .nhi =>
      { meaning :=
          "Une clé technique a été exposée. Ce n'est pas le compte d'une personne mais celui " ++
          "d'un programme : un logiciel qui se connecte à un service pour votre compte."
        impact :=
          "Elle donne un accès permanent, le plus souvent sans double authentification, et " ++
          "son usage ne se remarque pas puisqu'aucun humain ne s'en sert au quotidien. Une " ++
          "clé exposée reste utilisable tant qu'elle n'est pas révoquée — changer les mots " ++
          "de passe des personnes n'y change rien."
        action :=
          "Faites révoquer cette clé et en générer une nouvelle par votre prestataire " ++
          "informatique. Une clé exposée reste utilisable tant qu'elle n'est pas révoquée." }
  | .creds =>
      { meaning :=
          "Un identifiant lié à votre entreprise s'est retrouvé dans une fuite de données " ++
          "d'un site tiers."
        impact :=
          "Le risque principal est la réutilisation : si le même mot de passe sert ailleurs, " ++
          "ces autres comptes sont exposés aussi. Les attaquants essaient automatiquement " ++
          "les couples récupérés sur les services les plus courants."
        action :=
          "Changez ce mot de passe, et vérifiez qu'il n'est pas réutilisé sur vos outils " ++
          "professionnels (messagerie, banque, logiciel de comptabilité)." }
  | .combo =>
      { meaning :=
          "Cet identifiant circule dans une liste de couples « adresse + mot de passe » que " ++
          "les attaquants testent automatiquement sur de nombreux sites."
        impact :=
          "Ces listes sont rejouées en continu et sur des milliers de services à la fois. Ce " ++
          "n'est pas une hypothèse : le couple est déjà entre les mains de plusieurs " ++
          "personnes, et il sera essayé."
        action :=
          "Changez ce mot de passe dès que possible et activez la double authentification " ++
          "sur le compte concerné." }
  | .docs =>
      { meaning :=
          "Un document lié à votre entreprise a été publié sur un espace de fuite. Les " ++
          "informations ci-dessous le décrivent ; le document lui-même n'est pas accessible " ++
          "depuis cet espace, et c'est volontaire."
        impact :=
          "Selon son contenu, il peut concerner vos clients autant que vous. Si des données " ++
          "personnelles s'y trouvent, l'obligation de notification vous incombe, et le délai " ++
          "court à partir du moment où vous en avez connaissance — c'est-à-dire maintenant."
        action :=
          "Identifiez ce document à partir de son nom et de son type, et déterminez ce qu'il " ++
          "contient à partir de votre propre copie. S'il contient des données personnelles " ++
          "de clients, une notification à la CNIL peut être obligatoire sous 72 heures. Ne " ++
          "cherchez pas à télécharger la version publiée." }
  | .darkweb =>
      { meaning :=
          "Le nom de votre entreprise a été repéré dans un espace fréquenté par des " ++
          "attaquants. Rien n'indique qu'une donnée ait fuité : c'est un signal d'intérêt " ++
          "porté à votre entreprise."
        impact :=
          "Une mention précède souvent une tentative, sans la garantir. Elle vaut surtout " ++
          "comme fenêtre de préparation : c'est le moment de vérifier ce qui vous ferait le " ++
          "plus mal si une attaque aboutissait."
        action :=
          "Profitez-en pour vérifier deux points : vos sauvegardes fonctionnent, et la " ++
          "double authentification est active sur vos comptes importants." }
  | .radar =>
      { meaning :=
          "Une mention publique liée à votre entreprise a été repérée par la veille. C'est " ++
          "une information de suivi, pas une fuite."
        impact :=
          "Prise isolément, elle ne change rien à votre exposition. Elle ne devient un " ++
          "signal que si d'autres éléments s'accumulent sur le même sujet."
        action :=
          "Aucune action urgente. Gardez ce signal en tête si d'autres éléments s'accumulent " ++
          "sur le même sujet." }
  | .asm =>
      { meaning :=
          "Un élément de votre présence sur internet a été inventorié : une adresse, un " ++
          "service accessible publiquement."
        impact :=
          "C'est ce qu'un attaquant regarde en premier pour préparer une tentative. En soi, " ++
          "l'inventaire n'est pas une faiblesse — il le devient si l'un de ces services " ++
          "n'est plus tenu à jour."
        action :=
          "Aucune action urgente. Assurez-vous simplement que les services exposés sont " ++
          "tenus à jour par votre prestataire." }
  | .webhook =>
      { meaning :=
          "Une compromission a été signalée en temps réel par la surveillance continue."
        impact :=
          "Le signalement est arrivé sans attendre l'analyse suivante : la donnée vient " ++
          "d'apparaître en circulation, elle est donc récente et exploitable en l'état."
        action :=
          "Ouvrez le détail pour identifier le compte concerné, puis changez son mot de passe." }

/-- An address close to that of the company is no inventory. -/
def phishingExplanation : Explanation where
  meaning :=
    "Une adresse internet très proche de la vôtre a été déposée. C'est le préparatif " ++
    "classique d'un faux email."
  impact :=
    "Vos clients ou vos équipes recevront un message qui semble venir de vous, avec une " ++
    "adresse presque identique. La cible habituelle est la comptabilité, et la demande " ++
    "habituelle un changement de coordonnées bancaires."
  action :=
    "Prévenez vos équipes, en particulier la comptabilité, de vérifier l'adresse exacte de " ++
    "l'expéditeur avant tout virement ou envoi d'information."

def explain (finding : BreachFinding) : Explanation :=
  if finding.sourceEndpoint = .asm ∧ finding.findingType = asmPhishingType then phishingExplanation
  else explanationOf finding.sourceEndpoint

/-- What to do about a possible reuse, where the password can be revealed and where it cannot. -/
def recommendedVerification (finding : BreachFinding) : String :=
  if finding.hasSecret ∧ finding.secretEncrypted.any (· ≠ "") then
    "Pour lever le doute, vous pouvez révéler le mot de passe de cette fuite et " ++
      "vérifier s'il correspond à celui d'un accès professionnel. Cet accès est tracé " ++
      "dans le journal des révélations."
  else
    "Le mot de passe de cette fuite n'est pas disponible : vérifiez directement auprès " ++
      "de la personne concernée si elle réutilisait ce mot de passe ailleurs."

end RssiService.ThreatIntelligence
